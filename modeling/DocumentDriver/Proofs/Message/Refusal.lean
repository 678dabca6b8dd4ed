/-
This file says with which errors the writing of a message may fail. A writer refuses values that have
no written form and documents that are too large. It has no connection, so it never tells that a
network failed, or what a server answered.
-/

import DocumentDriver.Message.Compression
import DocumentDriver.Proofs.Document.Encodable
import DocumentDriver.Proofs.Document.Options

namespace DocumentDriver

namespace Encode

/-- If the step fails, something has no written form, or it is too large. -/
def Refuses {Result : Type} (step : Except Error Result) : Prop :=
  FailsOnly (fun error => error.kind = .codec) step

theorem refuses_of_ok {Result : Type} {step : Except Error Result} {result : Result}
    (succeeded : step = .ok result) : Refuses step :=
  failsOnly_of_ok succeeded

theorem Refuses.bind {Result Next : Type} {first : Except Error Result}
    {next : Result → Except Error Next} (front : Refuses first)
    (back : ∀ result, Refuses (next result)) : Refuses (first >>= next) :=
  FailsOnly.bind front back

theorem refuses_error {Result : Type} (cause : Unwritable) :
    Refuses (.error cause.toError : Except Error Result) := by
  rintro _ ⟨⟩
  cases cause <;> rfl

/-- Whatever is wrong with a value, its error is one of writing. -/
theorem Settles.refuses {zeroKey zeroRegex : Prop} {size : Nat} {step : Written}
    (settles : Settles zeroKey zeroRegex size step) : Refuses step := by
  intro error failed
  cases settles.refused error failed <;> rfl

/-! ### Documents -/

theorem refuses_length (count : Nat) : Refuses (length count) := by
  unfold length
  split
  · exact refuses_of_ok rfl
  · exact refuses_error _

theorem refuses_name (text : String) : Refuses (name text) :=
  (settles_name text).refuses

theorem refuses_measured (contents : Bytes) : Refuses (measured contents) :=
  (settles_measured rfl).refuses

theorem refuses_container (elements : Bytes) : Refuses (container elements) :=
  (settles_container rfl).refuses

theorem refuses_value (content : Value) : Refuses (value content) :=
  (settles_value content).refuses

theorem refuses_entries (fields : List (String × Value)) : Refuses (entries fields) :=
  (settles_entries fields).refuses

theorem refuses_checkedEntries (fields : List (String × Value)) :
    Refuses (checkedEntries fields) := by
  induction fields with
  | nil =>
    rw [checkedEntries]
    exact refuses_of_ok rfl
  | cons first rest inductionHypothesis =>
    have checked : Refuses (checkKey first.1) := by
      unfold checkKey
      split
      · exact refuses_error (.dollarKey first.1)
      · split
        · exact refuses_error (.dottedKey first.1)
        · exact refuses_of_ok rfl
    rw [checkedEntries]
    exact checked.bind fun _ => (refuses_name _).bind fun _ => (refuses_value _).bind fun _ =>
      inductionHypothesis.bind fun _ => refuses_of_ok rfl

theorem refuses_encodeWith (document : Document) (options : EncodeOptions) :
    Refuses (document.encodeWith options) := by
  rw [Document.encodeWith_eq]
  refine Refuses.bind ?_ fun elements => (refuses_container elements).bind fun bytes => ?_
  · unfold Document.elementsWith
    split
    · exact refuses_checkedEntries _
    · exact refuses_entries _
  · unfold Document.capped
    split
    · exact refuses_of_ok rfl
    · split
      · rintro _ ⟨⟩
        rfl
      · exact refuses_of_ok rfl

theorem refuses_documents (options : EncodeOptions) (list : List Document) :
    Refuses (documents options list) := by
  induction list with
  | nil => exact refuses_of_ok rfl
  | cons first rest inductionHypothesis =>
    exact (refuses_encodeWith first options).bind fun _ =>
      inductionHypothesis.bind fun _ => refuses_of_ok rfl

/-! ### Commands -/

theorem refuses_section (limit : Nat) (content : Section) : Refuses (content.toBytes limit) := by
  cases content with
  | body document => exact (refuses_encodeWith document _).bind fun _ => refuses_of_ok rfl
  | sequence run =>
    exact (refuses_name _).bind fun _ => (refuses_documents _ _).bind fun _ =>
      (refuses_measured _).bind fun _ => refuses_of_ok rfl

theorem refuses_sections (limit : Nat) (contents : List Section) :
    Refuses (Section.listToBytes limit contents) := by
  induction contents with
  | nil => exact refuses_of_ok rfl
  | cons first rest inductionHypothesis =>
    exact (refuses_section limit first).bind fun _ =>
      inductionHypothesis.bind fun _ => refuses_of_ok rfl

theorem refuses_msg (message : Msg) : Refuses (Message.msg message).serialize :=
  ((refuses_sections _ _).bind fun _ => refuses_of_ok rfl).bind fun _ =>
    (refuses_length _).bind fun _ => refuses_of_ok rfl

/-- If a command is not compressed, it cannot be written, or the compressor says why. -/
theorem failsOnly_compressed {allowed : Error → Prop}
    (codec : ∀ error : Error, error.kind = .codec → allowed error) (message : Msg)
    {compressor : Compressor} (compresses : ∀ bytes, FailsOnly allowed (compressor.compress bytes)) :
    FailsOnly allowed (Compressed.ofMessage (.msg message) compressor) := by
  have plain : (Message.msg message).kind ≠ .compressed := nofun
  have own {Result : Type} {step : Except Error Result} (refuses : Refuses step) :
      FailsOnly allowed step := fun error failed => codec error (refuses error failed)
  unfold Compressed.ofMessage
  rw [if_neg plain]
  exact (own (refuses_msg message)).bind fun _ => (own (refuses_length _)).bind fun _ =>
    (compresses _).bind fun _ => failsOnly_of_ok rfl

end Encode

end DocumentDriver
