/-
This file turns reading around: an action that gives a result has taken some bytes off the front,
and these are a form of the result. An action is sound for a relation between results and byte
strings if this holds wherever it succeeds, so what is joined from sound fields admits only what
its fields admit, one after the other. Repetitions get through all bytes in front of them, since
each round takes at least one.
-/

import DocumentDriver.Proofs.Bytes.Reading
import Mathlib.Data.List.Forall2

namespace DocumentDriver

namespace Read

variable {Result Next Item State : Type}

/-- Whatever the action gives, it has taken a form of it off the front. -/
def Sound (action : Read Result) (form : Result → Bytes → Prop) : Prop :=
  ∀ ⦃reader result after⦄, action reader = .ok (result, after) →
    ∃ head, form result head ∧ reader.rest = head ++ after.rest

/-- Whatever the action gives, all that was left is a form of it, and nothing is left now. -/
def SoundToEnd (action : Read Result) (form : Result → Bytes → Prop) : Prop :=
  ∀ ⦃reader result after⦄, action reader = .ok (result, after) →
    form result reader.rest ∧ after.rest = []

/-! ### Joining fields -/

theorem exists_of_bind_eq_ok {first : Read Result} {next : Result → Read Next}
    {reader after : Reader} {result : Next}
    (run : (first >>= next) reader = .ok (result, after)) :
    ∃ middle between, first reader = .ok (middle, between) ∧
      next middle between = .ok (result, after) := by
  rw [run_bind] at run
  cases ran : first reader with
  | error error =>
    rw [ran] at run
    cases run
  | ok pair =>
    rw [ran] at run
    exact ⟨pair.1, pair.2, rfl, run⟩

theorem Sound.weaken {action : Read Result} {form other : Result → Bytes → Prop}
    (sound : Sound action form) (weaker : ∀ result head, form result head → other result head) :
    Sound action other := by
  intro reader result after run
  obtain ⟨head, formed, split⟩ := sound run
  exact ⟨head, weaker result head formed, split⟩

theorem SoundToEnd.weaken {action : Read Result} {form other : Result → Bytes → Prop}
    (sound : SoundToEnd action form)
    (weaker : ∀ result bytes, form result bytes → other result bytes) :
    SoundToEnd action other :=
  fun _ _ _ run => ⟨weaker _ _ (sound run).1, (sound run).2⟩

theorem sound_pure (result : Result) :
    Sound (pure result) fun given head => result = given ∧ head = [] := by
  intro reader given after run
  cases run
  exact ⟨[], ⟨rfl, rfl⟩, rfl⟩

theorem sound_fail (error : Error) (form : Result → Bytes → Prop) : Sound (fail error) form := by
  intro reader result after run
  cases run

theorem Sound.bind {first : Read Result} {next : Result → Read Next}
    {form : Result → Bytes → Prop} {others : Result → Next → Bytes → Prop}
    (front : Sound first form) (back : ∀ middle, Sound (next middle) (others middle)) :
    Sound (first >>= next) fun result bytes =>
      ∃ middle head tail, form middle head ∧ others middle result tail ∧ head ++ tail = bytes := by
  intro reader result after run
  obtain ⟨middle, between, ran, followed⟩ := exists_of_bind_eq_ok run
  obtain ⟨head, formed, split⟩ := front ran
  obtain ⟨tail, rest, remaining⟩ := back middle followed
  refine ⟨head ++ tail, ⟨middle, head, tail, formed, rest, rfl⟩, ?_⟩
  rw [split, remaining, List.append_assoc]

theorem Sound.bind_toEnd {first : Read Result} {next : Result → Read Next}
    {form : Result → Bytes → Prop} {others : Result → Next → Bytes → Prop}
    (front : Sound first form) (back : ∀ middle, SoundToEnd (next middle) (others middle)) :
    SoundToEnd (first >>= next) fun result bytes =>
      ∃ middle head tail, form middle head ∧ others middle result tail ∧ head ++ tail = bytes := by
  intro reader result after run
  obtain ⟨middle, between, ran, followed⟩ := exists_of_bind_eq_ok run
  obtain ⟨head, formed, split⟩ := front ran
  obtain ⟨rest, ended⟩ := back middle followed
  exact ⟨⟨middle, head, between.rest, formed, rest, split.symm⟩, ended⟩

theorem Sound.map {first : Read Result} {form : Result → Bytes → Prop} (sound : Sound first form)
    (change : Result → Next) :
    Sound (first >>= fun result => pure (change result)) fun changed head =>
      ∃ result, form result head ∧ change result = changed := by
  refine (sound.bind fun result => sound_pure (change result)).weaken ?_
  rintro changed bytes ⟨result, head, tail, formed, ⟨same, rfl⟩, rfl⟩
  exact ⟨result, by rwa [List.append_nil], same⟩

/-- After the last byte only a step without bytes can succeed. -/
theorem SoundToEnd.bind {first : Read Result} {next : Result → Read Next}
    {form : Result → Bytes → Prop} {others : Result → Next → Bytes → Prop}
    (front : SoundToEnd first form) (back : ∀ middle, Sound (next middle) (others middle)) :
    SoundToEnd (first >>= next) fun result bytes =>
      ∃ middle, form middle bytes ∧ others middle result [] := by
  intro reader result after run
  obtain ⟨middle, between, ran, followed⟩ := exists_of_bind_eq_ok run
  obtain ⟨formed, ended⟩ := front ran
  obtain ⟨tail, rest, remaining⟩ := back middle followed
  rw [ended] at remaining
  obtain ⟨rfl, last⟩ := List.append_eq_nil_iff.1 remaining.symm
  exact ⟨⟨middle, formed, rest⟩, last⟩

theorem SoundToEnd.map {first : Read Result} {form : Result → Bytes → Prop}
    (sound : SoundToEnd first form) (change : Result → Next) :
    SoundToEnd (first >>= fun result => pure (change result)) fun changed bytes =>
      ∃ result, form result bytes ∧ change result = changed := by
  refine (sound.bind fun result => sound_pure (change result)).weaken ?_
  rintro changed bytes ⟨result, formed, same, -⟩
  exact ⟨result, formed, same⟩

/-- What is left is looked at before it is read. -/
theorem soundToEnd_get {next : Reader → Read Next} {others : Reader → Next → Bytes → Prop}
    (back : ∀ reader, SoundToEnd (next reader) (others reader)) :
    SoundToEnd (get >>= next) fun result bytes =>
      ∃ reader : Reader, reader.rest = bytes ∧ others reader result bytes := by
  intro reader result after run
  have read : next reader reader = .ok (result, after) := run
  exact ⟨⟨reader, rfl, (back reader read).1⟩, (back reader read).2⟩

/-- A check in front of an action holds wherever the whole succeeds. -/
theorem sound_unless {condition : Prop} [Decidable condition] {error : Error}
    {action : Read Result} {form : Result → Bytes → Prop} (sound : Sound action form) :
    Sound (if condition then fail error else action) fun result head =>
      ¬condition ∧ form result head := by
  intro reader result after run
  by_cases failed : condition
  · rw [if_pos failed] at run
    cases run
  · rw [if_neg failed] at run
    obtain ⟨head, formed, split⟩ := sound run
    exact ⟨head, ⟨failed, formed⟩, split⟩

theorem soundToEnd_unless {condition : Prop} [Decidable condition] {error : Error}
    {action : Read Result} {form : Result → Bytes → Prop} (sound : SoundToEnd action form) :
    SoundToEnd (if condition then fail error else action) fun result bytes =>
      ¬condition ∧ form result bytes := by
  intro reader result after run
  by_cases failed : condition
  · rw [if_pos failed] at run
    cases run
  · rw [if_neg failed] at run
    exact ⟨⟨failed, (sound run).1⟩, (sound run).2⟩

theorem of_inside_eq_ok {bytes : Bytes} {inner : Read Result} {reader after : Reader}
    {result : Result} (run : Read.inside bytes inner reader = .ok (result, after)) :
    after = reader ∧ ∃ last, inner (Reader.start bytes) = .ok (result, last) := by
  unfold Read.inside at run
  cases ran : inner (Reader.start bytes) with
  | error error =>
    rw [ran] at run
    cases run
  | ok pair =>
    rw [ran] at run
    cases run
    exact ⟨rfl, pair.2, rfl⟩

/-- What is read to the end of bytes that were taken out whole has the form of all of them. -/
theorem SoundToEnd.inside {inner : Read Result} {form : Result → Bytes → Prop}
    (sound : SoundToEnd inner form) (bytes : Bytes) :
    Sound (Read.inside bytes inner) fun result head => form result bytes ∧ head = [] := by
  intro reader result after run
  obtain ⟨rfl, last, ran⟩ := of_inside_eq_ok run
  exact ⟨[], ⟨(sound ran).1, rfl⟩, rfl⟩

/-- A step without bytes succeeds only with what it gives. -/
theorem sound_liftM (step : Except Error Result) :
    Sound (liftM step) fun result head => step = .ok result ∧ head = [] := by
  intro reader result after run
  cases step with
  | error error => cases run
  | ok given =>
    cases run
    exact ⟨[], ⟨rfl, rfl⟩, rfl⟩

/-! ### Single fields -/

theorem sound_byte : Sound Read.byte fun byte head => [byte] = head := by
  rintro ⟨position, rest⟩ byte after run
  cases rest with
  | nil => cases run
  | cons _ rest =>
    cases run
    exact ⟨[byte], rfl, rfl⟩

theorem of_take_eq_ok {count : Nat} {reader after : Reader} {taken : Bytes}
    (run : take count reader = .ok (taken, after)) :
    taken.length = count ∧ reader.rest.take count = taken ∧ after.rest = reader.rest.drop count := by
  unfold take at run
  dsimp only at run
  split at run
  next exact =>
    cases run
    exact ⟨exact, rfl, rfl⟩
  next => cases run

theorem sound_take (count : Nat) :
    Sound (take count) fun taken head => taken = head ∧ head.length = count := by
  intro reader taken after run
  obtain ⟨size, front, rest⟩ := of_take_eq_ok run
  refine ⟨taken, ⟨rfl, size⟩, ?_⟩
  rw [rest, ← front, List.take_append_drop]

theorem sound_vector (count : Nat) :
    Sound (Read.vector count) fun taken head => taken.toList = head := by
  intro reader taken after run
  unfold Read.vector at run
  dsimp only at run
  split at run
  next exact =>
    cases run
    exact ⟨reader.rest.take count, rfl, (List.take_append_drop count reader.rest).symm⟩
  next => cases run

theorem soundToEnd_remainder : SoundToEnd remainder fun taken bytes => taken = bytes := by
  intro reader taken after run
  cases run
  exact ⟨rfl, rfl⟩

theorem sound_atEnd : Sound atEnd fun _ head => head = [] := by
  intro reader ended after run
  cases run
  exact ⟨[], rfl, rfl⟩

/-- A check that nothing is left succeeds only there. -/
theorem soundToEnd_atEnd (result : Result) (error : Error) :
    SoundToEnd (do if ← atEnd then return result else fail error)
      fun given bytes => result = given ∧ bytes = [] := by
  rintro ⟨position, rest⟩ given after run
  cases rest with
  | nil =>
    cases run
    exact ⟨⟨rfl, rfl⟩, rfl⟩
  | cons first rest => cases run

/-! ### Numbers -/

/-- Bytes of a known width are the written form of the number that they stand for, which fits. -/
theorem littleEndian_of_length {bytes : Bytes} {width : Nat} (exact : bytes.length = width) :
    fromLittleEndian bytes < 1 <<< (8 * width) ∧
      littleEndian width (fromLittleEndian bytes) = bytes := by
  subst exact
  exact ⟨fromLittleEndian_lt bytes, littleEndian_fromLittleEndian bytes⟩

theorem ofInt32_toInt32 {bytes : Bytes} (exact : bytes.length = 4) :
    Bytes.ofInt32 (Bytes.toInt32 bytes) = bytes := by
  obtain ⟨small, same⟩ := littleEndian_of_length exact
  unfold Bytes.ofInt32 Bytes.toInt32
  rwa [UInt32.toUInt32_toInt32, UInt32.toNat_ofNat_of_lt' small]

theorem ofInt64_toInt64 {bytes : Bytes} (exact : bytes.length = 8) :
    Bytes.ofInt64 (Bytes.toInt64 bytes) = bytes := by
  obtain ⟨small, same⟩ := littleEndian_of_length exact
  unfold Bytes.ofInt64 Bytes.toInt64
  rwa [UInt64.toUInt64_toInt64, UInt64.toNat_ofNat_of_lt' small]

theorem ofUInt32_toUInt32 {bytes : Bytes} (exact : bytes.length = 4) :
    Bytes.ofUInt32 (Bytes.toUInt32 bytes) = bytes := by
  obtain ⟨small, same⟩ := littleEndian_of_length exact
  unfold Bytes.ofUInt32 Bytes.toUInt32
  rwa [UInt32.toNat_ofNat_of_lt' small]

theorem littleEndian_toUInt64 {bytes : Bytes} (exact : bytes.length = 8) :
    littleEndian 8 (Bytes.toUInt64 bytes).toNat = bytes := by
  obtain ⟨small, same⟩ := littleEndian_of_length exact
  unfold Bytes.toUInt64
  rwa [UInt64.toNat_ofNat_of_lt' small]

/-- A field of fixed width has the form that the number is written in. -/
theorem sound_number (width : Nat) {ofBytes : Bytes → Result} {write : Result → Bytes}
    (written : ∀ bytes : Bytes, bytes.length = width → write (ofBytes bytes) = bytes) :
    Sound (ofBytes <$> take width) fun number head => write number = head := by
  refine ((sound_take width).map ofBytes).weaken ?_
  rintro number head ⟨taken, ⟨rfl, exact⟩, rfl⟩
  exact written taken exact

theorem sound_int32 : Sound int32 fun number head => Bytes.ofInt32 number = head :=
  sound_number 4 fun _ => ofInt32_toInt32

theorem sound_int64 : Sound int64 fun number head => Bytes.ofInt64 number = head :=
  sound_number 8 fun _ => ofInt64_toInt64

theorem sound_uint32 : Sound uint32 fun number head => Bytes.ofUInt32 number = head :=
  sound_number 4 fun _ => ofUInt32_toUInt32

theorem sound_uint64 : Sound uint64 fun number head => littleEndian 8 number.toNat = head :=
  sound_number 8 fun _ => littleEndian_toUInt64

/-- A number that is not negative is written like its magnitude, which fits 31 bits. -/
theorem littleEndian_of_nonneg {number : Int32} (positive : ¬number.toInt < 0) :
    number.toInt.toNat < 2 ^ 31 ∧ littleEndian 4 number.toInt.toNat = Bytes.ofInt32 number := by
  have high := number.toInt_lt
  have small : number.toInt.toNat < 2 ^ 31 := by omega
  refine ⟨small, ?_⟩
  have read : Bytes.toInt32 (littleEndian 4 number.toInt.toNat) = number := by
    rw [← Int32.toInt_inj, toInt_toInt32_littleEndian _ small]
    omega
  rw [← read, ofInt32_toInt32 (length_littleEndian _ _), read]

theorem sound_length :
    Sound length fun count head => count < 2 ^ 31 ∧ littleEndian 4 count = head := by
  refine (sound_int32.bind fun number => sound_unless (sound_pure number.toInt.toNat)).weaken ?_
  rintro count bytes ⟨number, head, tail, rfl, ⟨positive, rfl, rfl⟩, rfl⟩
  rw [List.append_nil]
  exact littleEndian_of_nonneg positive

theorem of_peekInt32_eq_ok {reader after : Reader} {number : Int32}
    (run : peekInt32 reader = .ok (number, after)) :
    after = reader ∧ reader.rest.take 4 = Bytes.ofInt32 number := by
  unfold peekInt32 at run
  split at run
  next found last ran =>
    cases run
    obtain ⟨head, rfl, split⟩ := sound_int32 ran
    refine ⟨rfl, ?_⟩
    rw [split]
    exact List.take_left' (length_littleEndian _ _)
  next => cases run

/-! ### Texts -/

theorem sound_name :
    Sound name fun text head => 0 ∉ Utf8.encode text ∧ Utf8.encode text ++ [0] = head := by
  intro reader text after run
  have parts := List.takeWhile_append_dropWhile (p := (· != (0 : UInt8))) (l := reader.rest)
  have clean : 0 ∉ reader.rest.takeWhile (· != 0) := by
    intro member
    have tested := List.all_takeWhile (p := (· != (0 : UInt8))) (l := reader.rest)
    simpa using List.all_eq_true.1 tested 0 member
  unfold name at run
  dsimp only at run
  split at run
  next => cases run
  next zero rest remaining =>
    have ended : zero = 0 := by
      have first := List.head?_dropWhile_not (· != 0) reader.rest
      rw [remaining] at first
      simpa using first
    split at run
    next found decoded =>
      cases run
      have bytes := (Utf8.decode_eq_ok_iff _ _).1 decoded
      rw [bytes] at parts clean
      rw [remaining, ended] at parts
      exact ⟨_, ⟨clean, rfl⟩, by rw [← parts, List.append_assoc, List.singleton_append]⟩
    next => cases run

theorem sound_decoded (bytes : Bytes) :
    Sound (match Utf8.decode bytes with
      | .ok text => return text
      | .error fault => corrupt (.stringEncoding fault))
      fun text head => bytes = Utf8.encode text ∧ head = [] := by
  intro reader text after run
  cases decoded : Utf8.decode bytes with
  | error fault =>
    rw [decoded] at run
    cases run
  | ok found =>
    rw [decoded] at run
    cases run
    exact ⟨[], ⟨(Utf8.decode_eq_ok_iff _ _).1 decoded, rfl⟩, rfl⟩

theorem sound_text :
    Sound Read.text fun text head => (Utf8.encode text).length + 1 < 2 ^ 31 ∧
      littleEndian 4 ((Utf8.encode text).length + 1) ++ (Utf8.encode text ++ [0]) = head := by
  refine (sound_length.bind fun count => sound_unless ((sound_take count).bind fun bytes =>
    sound_unless (sound_decoded bytes.dropLast))).weaken ?_
  rintro text head ⟨count, front, back, ⟨small, rfl⟩,
    ⟨some, bytes, body, rest, ⟨rfl, exact⟩, ⟨ended, inner, rfl⟩, rfl⟩, rfl⟩
  have whole : Utf8.encode text ++ [0] = bytes := by
    rw [← inner]
    exact List.dropLast_append_getLast? 0 (not_not.1 ended)
  have size : (Utf8.encode text).length + 1 = count := by
    rw [← exact, ← whole, List.length_append, List.length_singleton]
  rw [size, whole, List.append_nil]
  exact ⟨small, rfl⟩

/-! ### Repetition -/

/-- A repeated step goes from one state to another through these bytes, each time by a form of at
least one byte. -/
inductive Passes (form : State → State → Bytes → Prop) : State → Bytes → State → Prop
  | done (state : State) : Passes form state [] state
  | more {before middle after : State} {head tail : Bytes} (portion : form before middle head)
      (others : Passes form middle tail after) : Passes form before (head ++ tail) after

theorem passes_of_repeatUpTo {step : State → Read State} {form : State → State → Bytes → Prop}
    (portion : ∀ state, Sound (step state) (form state))
    (some : ∀ before middle head, form before middle head → head ≠ [])
    {count : Nat} {before result : State} {reader after : Reader}
    (enough : reader.rest.length ≤ count)
    (run : repeatUpTo step count before reader = .ok (result, after)) :
    Passes form before reader.rest result ∧ after.rest = [] := by
  induction count generalizing before reader with
  | zero =>
    have empty : reader.rest = [] := List.eq_nil_of_length_eq_zero (Nat.le_zero.1 enough)
    obtain ⟨rfl, rfl⟩ : before = result ∧ reader = after := by
      cases run
      exact ⟨rfl, rfl⟩
    rw [empty]
    exact ⟨.done before, rfl⟩
  | succ count inductionHypothesis =>
    have opened : (if reader.rest.isEmpty = true then pure before
        else step before >>= repeatUpTo step count : Read State) reader = .ok (result, after) := run
    cases left : reader.rest.isEmpty with
    | true =>
      rw [left, if_pos rfl] at opened
      obtain ⟨rfl, rfl⟩ : before = result ∧ reader = after := by
        cases opened
        exact ⟨rfl, rfl⟩
      rw [List.isEmpty_iff.1 left]
      exact ⟨.done before, rfl⟩
    | false =>
      rw [left, if_neg Bool.false_ne_true] at opened
      obtain ⟨middle, between, ran, others⟩ := exists_of_bind_eq_ok opened
      obtain ⟨head, formed, split⟩ := portion before ran
      -- A portion has at least one byte, so one repetition less is enough for what is left.
      have shorter : between.rest.length ≤ count := by
        have positive := List.length_pos_iff.2 (some _ _ _ formed)
        rw [split, List.length_append] at enough
        omega
      obtain ⟨passes, ended⟩ := inductionHypothesis shorter others
      rw [split]
      exact ⟨.more formed passes, ended⟩

theorem soundToEnd_untilEnd {step : State → Read State} {form : State → State → Bytes → Prop}
    (portion : ∀ state, Sound (step state) (form state))
    (some : ∀ before middle head, form before middle head → head ≠ []) (before : State) :
    SoundToEnd (untilEnd step before) fun result bytes => Passes form before bytes result :=
  fun _ _ _ run => passes_of_repeatUpTo portion some (Nat.le_refl _) run

/-- Items that are read until the end are each a form of their own part of the bytes. -/
theorem soundToEnd_listUntilEnd {item : Read Item} {form : Item → Bytes → Prop}
    (sound : Sound item form) (some : ∀ item head, form item head → head ≠ []) :
    SoundToEnd (listUntilEnd item) fun items bytes =>
      ∃ parts : List Bytes, List.Forall₂ form items parts ∧ parts.flatten = bytes := by
  have gathered (before : List Item) := soundToEnd_untilEnd
    (fun items => sound.map fun item => item :: items)
    (by rintro items _ head ⟨item, formed, -⟩; exact some item head formed) before
  refine ((gathered []).map List.reverse).weaken ?_
  rintro _ bytes ⟨reversed, passes, rfl⟩
  have split {before after : List Item} {bytes : Bytes}
      (passes : Passes (fun items longer head => ∃ item, form item head ∧ item :: items = longer)
        before bytes after) :
      ∃ items parts, List.Forall₂ form items parts ∧ parts.flatten = bytes ∧
        after = items.reverse ++ before := by
    induction passes with
    | done => exact ⟨[], [], .nil, rfl, rfl⟩
    | @more before middle after head tail portion others inductionHypothesis =>
      obtain ⟨item, formed, rfl⟩ := portion
      obtain ⟨items, parts, each, rfl, rfl⟩ := inductionHypothesis
      refine ⟨item :: items, head :: parts, .cons formed each, rfl, ?_⟩
      rw [List.reverse_cons, List.append_assoc, List.singleton_append]
  obtain ⟨items, parts, each, whole, rfl⟩ := split passes
  rw [List.append_nil, List.reverse_reverse]
  exact ⟨parts, each, whole⟩

end Read

end DocumentDriver
