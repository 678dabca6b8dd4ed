/-
This file shows when a reader in place has no accidents. It mirrors a reader of byte strings if both
end in the same way wherever the cursor stands inside bytes that the machine can hold: with the same
result at the same place, or with the same error, which is of a kind that is allowed. Readers that are
put together in the same way from such readers mirror each other again, so only the single fields
look at places.
-/

import DocumentDriver.InPlace.Cursor
import DocumentDriver.Proofs.Bytes.Soundness
import DocumentDriver.Proofs.Document.Written

namespace DocumentDriver

/-- What a reader of documents tells a caller. -/
inductive Error.IsCorruption : Error → Prop
  | corruptData (reason : String) : IsCorruption (.corruptData reason)

namespace InPlace

/-- Among the errors that are allowed are those of readers of documents. -/
class AllowsCorruption (allowed : Error → Prop) : Prop where
  corruptData : ∀ reason, allowed (.corruptData reason)

instance : AllowsCorruption Error.IsCorruption := ⟨.corruptData⟩

variable {Result Next Item State : Type} {allowed : Error → Prop}

/-! ### Sizes and ranges -/

theorem difference_eq_ok {whole part : Nat} (inside : part ≤ whole) :
    difference whole part = .ok (whole - part) :=
  if_pos inside

theorem size_eq_ok {number : Int32} (positive : 0 ≤ number.toInt) :
    size number = .ok number.toInt.toNat :=
  if_pos positive

theorem index_eq_ok {bytes : Bytes} {place : Nat} {byte : UInt8} (there : bytes[place]? = some byte) :
    index bytes place = .ok byte := by
  unfold index
  rw [there]

theorem slice_eq_ok {bytes : Bytes} {start stop : Nat} (ordered : start ≤ stop)
    (inside : stop ≤ bytes.length) : slice bytes start stop = .ok ((bytes.take stop).drop start) :=
  if_pos ⟨ordered, inside⟩

theorem slice_to_end {bytes : Bytes} {start : Nat} (inside : start ≤ bytes.length) :
    slice bytes start bytes.length = .ok (bytes.drop start) := by
  rw [slice_eq_ok inside (Nat.le_refl _), List.take_length]

theorem index_last {bytes : Bytes} {count : Nat} (positive : 1 ≤ count)
    (size : bytes.length = count) :
    ∃ last, bytes.getLast? = some last ∧ index bytes (count - 1) = .ok last := by
  subst size
  have there := List.getElem?_eq_getElem (l := bytes) (i := bytes.length - 1) (by omega)
  exact ⟨_, List.getLast?_eq_getElem?.trans there, index_eq_ok there⟩

theorem slice_to_last {bytes : Bytes} {start count : Nat} (ordered : start ≤ count - 1)
    (size : bytes.length = count) :
    slice bytes start (count - 1) = .ok (bytes.drop start).dropLast := by
  rw [slice_eq_ok ordered (by omega), List.drop_take, List.dropLast_eq_take, List.length_drop, size,
    Nat.sub_right_comm]

section Sizes

variable [Machine]

theorem sum_eq_ok {left right : Nat} (fits : left + right ≤ Machine.largest) :
    sum left right = .ok (left + right) :=
  if_pos fits

/-- What bytes declare in 32 bits is far below the largest size. -/
theorem below_largest {count : Nat} (small : count < 2 ^ 31 + 4) : count < Machine.largest :=
  Nat.lt_of_lt_of_le (Nat.lt_trans small (by decide)) Machine.enough

end Sizes

/-! ### Agreement -/

/-- A computation without accidents: it ends like the one that has none, and its errors are allowed. -/
inductive Completes (allowed : Error → Prop) : Except Halt Result → Except Error Result → Prop
  | done (result : Result) : Completes allowed (.ok result) (.ok result)
  | refused {error : Error} (kind : allowed error) :
    Completes allowed (.error (.refused error)) (.error error)

/-- The same for actions on some bytes: they leave off at the same place. -/
inductive Agrees (allowed : Error → Prop) (whole : Bytes) :
    Except Halt (Result × Cursor) → Except Error (Result × Reader) → Prop
  | done {result : Result} {place : Nat} (inside : place ≤ whole.length) :
    Agrees allowed whole (.ok (result, ⟨whole, place⟩)) (.ok (result, ⟨place, whole.drop place⟩))
  | refused {error : Error} (kind : allowed error) :
    Agrees allowed whole (.error (.refused error)) (.error error)

theorem Completes.bind {first : Except Halt Result} {second : Except Error Result}
    {next : Result → Except Halt Next} {follow : Result → Except Error Next}
    (front : Completes allowed first second)
    (back : ∀ result, second = .ok result → Completes allowed (next result) (follow result)) :
    Completes allowed (first >>= next) (second >>= follow) := by
  cases front with
  | done result => exact back result rfl
  | refused kind => exact .refused kind

theorem Completes.eq_ok {first : Except Halt Result} {result : Result}
    (completes : Completes allowed first (.ok result)) : first = .ok result := by
  cases completes
  rfl

theorem completes_mapError {step : Except Error Result} (fails : FailsOnly allowed step) :
    Completes allowed (step.mapError .refused) step := by
  cases step with
  | ok result => exact .done result
  | error error => exact .refused (fails error rfl)

theorem Agrees.end (whole : Bytes) (result : Result) :
    Agrees allowed whole (.ok (result, ⟨whole, whole.length⟩)) (.ok (result, ⟨whole.length, []⟩)) := by
  rw [← List.drop_length (l := whole)]
  exact .done (Nat.le_refl _)

theorem Agrees.eq_ok {whole : Bytes} {scanned : Except Halt (Result × Cursor)} {result : Result}
    {after : Reader} (agrees : Agrees allowed whole scanned (.ok (result, after))) :
    scanned = .ok (result, ⟨whole, after.position⟩) := by
  cases agrees
  rfl

theorem Agrees.failsOnly {whole : Bytes} {scanned : Except Halt (Result × Cursor)}
    {read : Except Error (Result × Reader)} (agrees : Agrees allowed whole scanned read) :
    FailsOnly allowed read := by
  cases agrees with
  | done => exact failsOnly_of_ok rfl
  | refused kind =>
    rintro _ ⟨⟩
    exact kind

/-- After an action on all bytes, the place where it left off may still be looked at. -/
theorem Agrees.completes_bind {whole : Bytes} {scanned : Except Halt (Result × Cursor)}
    {read : Except Error (Result × Reader)} {next : Result × Cursor → Except Halt Next}
    {follow : Result × Reader → Except Error Next} (agrees : Agrees allowed whole scanned read)
    (back : ∀ result place, place ≤ whole.length → Completes allowed
      (next (result, ⟨whole, place⟩)) (follow (result, ⟨place, whole.drop place⟩))) :
    Completes allowed (scanned >>= next) (read >>= follow) := by
  cases agrees with
  | done inside => exact back _ _ inside
  | refused kind => exact .refused kind

theorem Agrees.completes {whole : Bytes} {scanned : Except Halt (Result × Cursor)}
    {read : Except Error (Result × Reader)} (agrees : Agrees allowed whole scanned read) :
    Completes allowed ((·.1) <$> scanned) ((·.1) <$> read) :=
  agrees.completes_bind fun result _ _ => .done result

theorem ok_bind (result : Result) (next : Result → Except Halt Next) :
    ((.ok result : Except Halt Result) >>= next) = next result := rfl

/-- A step without an accident gives what it gives. -/
theorem liftM_eq_pure {step : Except Halt Result} {result : Result} (given : step = .ok result) :
    (liftM step : Scan Result) = pure result := by
  subst given
  rfl

theorem liftM_bind {step : Except Halt Result} {result : Result} (given : step = .ok result)
    (next : Result → Scan Next) : (liftM step >>= next : Scan Next) = next result := by
  rw [liftM_eq_pure given, pure_bind]

/-! ### Putting actions together -/

theorem agrees_bind {scan : Scan Result} {read : Read Result} {next : Result → Scan Next}
    {follow : Result → Read Next} {whole : Bytes} {place : Nat}
    (front : Agrees allowed whole (scan ⟨whole, place⟩) (read ⟨place, whole.drop place⟩))
    (back : ∀ result later, later ≤ whole.length →
      read ⟨place, whole.drop place⟩ = .ok (result, ⟨later, whole.drop later⟩) →
      Agrees allowed whole (next result ⟨whole, later⟩) (follow result ⟨later, whole.drop later⟩)) :
    Agrees allowed whole ((scan >>= next) ⟨whole, place⟩)
      ((read >>= follow) ⟨place, whole.drop place⟩) := by
  show Agrees allowed whole (scan ⟨whole, place⟩ >>= fun pair => next pair.1 pair.2)
    (read ⟨place, whole.drop place⟩ >>= fun pair => follow pair.1 pair.2)
  generalize scan ⟨whole, place⟩ = scanned at front ⊢
  generalize read ⟨place, whole.drop place⟩ = given at front back ⊢
  cases front with
  | done inside => exact back _ _ inside rfl
  | refused kind => exact .refused kind

variable [Machine]

/-- In bytes that the machine can hold, the actions agree from every place on. -/
def Mirrors (allowed : Error → Prop) (scan : Scan Result) (read : Read Result) : Prop :=
  ∀ ⦃whole : Bytes⦄ ⦃place : Nat⦄, whole.length < Machine.largest → place ≤ whole.length →
    Agrees allowed whole (scan ⟨whole, place⟩) (read ⟨place, whole.drop place⟩)

theorem mirrors_pure (result : Result) : Mirrors allowed (pure result) (pure result) :=
  fun _ _ _ inside => .done inside

theorem mirrors_fail {error : Error} (kind : allowed error) :
    Mirrors allowed (Scan.fail error : Scan Result) (Read.fail error) :=
  fun _ _ _ _ => .refused kind

/-- What comes next may rely on what is known of the result so far. -/
theorem Mirrors.bind_sound {scan : Scan Result} {read : Read Result} {next : Result → Scan Next}
    {follow : Result → Read Next} {form : Result → Bytes → Prop} (front : Mirrors allowed scan read)
    (sound : Read.Sound read form)
    (back : ∀ result head, form result head → Mirrors allowed (next result) (follow result)) :
    Mirrors allowed (scan >>= next) (read >>= follow) := by
  intro whole place small inside
  refine agrees_bind (front small inside) fun result later inside ran => ?_
  obtain ⟨head, formed, -⟩ := sound ran
  exact back result head formed small inside

theorem Mirrors.bind {scan : Scan Result} {read : Read Result} {next : Result → Scan Next}
    {follow : Result → Read Next} (front : Mirrors allowed scan read)
    (back : ∀ result, Mirrors allowed (next result) (follow result)) :
    Mirrors allowed (scan >>= next) (read >>= follow) :=
  fun _ _ small inside => agrees_bind (front small inside) fun result _ inside _ =>
    back result small inside

theorem Mirrors.map {scan : Scan Result} {read : Read Result} (mirrors : Mirrors allowed scan read)
    (change : Result → Next) : Mirrors allowed (change <$> scan) (change <$> read) :=
  mirrors.bind fun result => mirrors_pure (change result)

theorem mirrors_ite {condition : Prop} [Decidable condition] {scan otherScan : Scan Result}
    {read otherRead : Read Result} (met : condition → Mirrors allowed scan read)
    (unmet : ¬condition → Mirrors allowed otherScan otherRead) :
    Mirrors allowed (if condition then scan else otherScan)
      (if condition then read else otherRead) := by
  by_cases holds : condition
  · rw [if_pos holds, if_pos holds]
    exact met holds
  · rw [if_neg holds, if_neg holds]
    exact unmet holds

theorem mirrors_unless {condition : Prop} [Decidable condition] {error : Error} {scan : Scan Result}
    {read : Read Result} (kind : allowed error) (rest : ¬condition → Mirrors allowed scan read) :
    Mirrors allowed (if condition then Scan.fail error else scan)
      (if condition then Read.fail error else read) :=
  mirrors_ite (fun _ => mirrors_fail kind) rest

theorem mirrors_attempt {step : Except Error Result} (fails : FailsOnly allowed step) :
    Mirrors allowed (Scan.attempt step) (liftM step) := by
  cases step with
  | ok result => exact mirrors_pure result
  | error error => exact mirrors_fail (fails error rfl)

theorem Mirrors.within {scan : Scan Result} {read : Read Result} (mirrors : Mirrors allowed scan read)
    {bytes : Bytes} (small : bytes.length < Machine.largest) :
    Mirrors allowed (Scan.within bytes scan) (Read.inside bytes read) := by
  intro whole place _ inside
  have agrees := mirrors small (Nat.zero_le _)
  rw [List.drop_zero] at agrees
  unfold Scan.within Read.inside Reader.start
  generalize scan ⟨bytes, 0⟩ = scanned at agrees ⊢
  generalize read ⟨0, bytes⟩ = given at agrees ⊢
  cases agrees with
  | done => exact .done inside
  | refused kind => exact .refused kind

end InPlace

end DocumentDriver
