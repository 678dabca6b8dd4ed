/-
This file shows that no field is read by accident. Each one looks at the bytes that are left before it
takes them, so its ranges lie inside them and its sums stay below the number of all bytes. A loop
takes at least one byte in each round, so it is over after as many rounds as there are bytes.
-/

import DocumentDriver.Proofs.InPlace.Agreement

namespace DocumentDriver

/-! ### Fields of a reader -/

namespace Read

theorem byte_eq : Read.byte = Read.take 1 >>= fun taken => pure (taken.headD 0) := by
  funext ⟨position, rest⟩
  cases rest <;> rfl

/-- Bytes whose number a type knows are read as others are. -/
theorem take_eq (count : Nat) : Read.take count = (·.toList) <$> Read.vector count := by
  funext reader
  show _ = Read.vector count reader >>= _
  unfold Read.take Read.vector
  dsimp only
  by_cases exact : (reader.rest.take count).length = count
  · rw [if_pos exact, dif_pos exact]
    rfl
  · rw [if_neg exact, dif_neg exact]
    rfl

theorem vector_eq (count : Nat) : Read.vector count = Read.take count >>= fun taken =>
    if exact : taken.length = count then pure ⟨taken.toArray, exact⟩
    else Read.corrupt (.shortage count 0 0) := by
  funext reader
  show _ = Read.take count reader >>= _
  unfold Read.take Read.vector
  dsimp only
  by_cases exact : (reader.rest.take count).length = count
  · rw [if_pos exact, dif_pos exact]
    show _ = (if exact : _ then _ else _ : Read _) _
    rw [dif_pos exact]
    rfl
  · rw [if_neg exact, dif_neg exact]
    rfl

/-- A name ends at the first zero byte. -/
theorem name_parts {rest : Bytes} {stop : Nat} (found : rest.findIdx? (· == 0) = some stop) :
    stop < rest.length ∧ rest.takeWhile (· != 0) = rest.take stop ∧
      rest.dropWhile (· != 0) = 0 :: rest.drop (stop + 1) := by
  obtain ⟨inside, zero, before⟩ := List.findIdx?_eq_some_iff_getElem.1 found
  have split : rest = rest.take stop ++ 0 :: rest.drop (stop + 1) := by
    rw [← eq_of_beq zero, ← List.drop_eq_getElem_cons inside, List.take_append_drop]
  have nonzero : ∀ byte ∈ rest.take stop, (byte != 0) = true := by
    intro byte member
    obtain ⟨place, short, rfl⟩ := List.mem_iff_getElem.1 member
    rw [List.length_take] at short
    rw [List.getElem_take]
    simpa using before place (by omega)
  refine ⟨inside, ?_, ?_⟩
  · conv_lhs => rw [split, List.takeWhile_append_of_pos nonzero]
    simp
  · conv_lhs => rw [split, List.dropWhile_append_of_pos nonzero]
    simp

theorem unterminated {rest : Bytes} (absent : rest.findIdx? (· == 0) = none) :
    rest.dropWhile (· != 0) = [] := by
  have nonzero : ∀ byte ∈ rest, (byte != 0) = true := fun byte member => by
    simpa using List.findIdx?_eq_none_iff.1 absent byte member
  rw [← List.append_nil rest, List.dropWhile_append_of_pos nonzero]
  rfl

end Read

namespace InPlace

variable {Result Next Item State : Type} {allowed : Error → Prop}

/-! ### Single fields -/

theorem run_remaining {whole : Bytes} {place : Nat} (inside : place ≤ whole.length) :
    Scan.remaining ⟨whole, place⟩ = .ok (whole.length - place, ⟨whole, place⟩) := by
  unfold Scan.remaining
  dsimp only
  rw [difference_eq_ok inside]
  rfl

theorem run_isEmpty {whole : Bytes} {place : Nat} (inside : place ≤ whole.length) :
    Scan.isEmpty ⟨whole, place⟩ = .ok ((whole.drop place).isEmpty, ⟨whole, place⟩) := by
  have same : (whole.length - place == 0) = (whole.drop place).isEmpty := by
    rw [← List.length_drop]
    cases whole.drop place <;> rfl
  unfold Scan.isEmpty
  show Scan.remaining ⟨whole, place⟩ >>= _ = _
  rw [run_remaining inside, ← same]
  rfl

variable [Machine]

theorem mirrors_isEmpty : Mirrors allowed Scan.isEmpty Read.atEnd := by
  intro whole place _ inside
  rw [run_isEmpty inside]
  exact .done inside

theorem mirrors_remainder : Mirrors allowed Scan.remainder Read.remainder := by
  intro whole place _ inside
  have left : place + (whole.drop place).length = whole.length := by
    rw [List.length_drop]
    omega
  unfold Scan.remainder Read.remainder
  dsimp only
  rw [slice_to_end inside, left]
  exact .end whole _

theorem run_take {whole : Bytes} {place count : Nat} (small : whole.length < Machine.largest)
    (inside : place + count ≤ whole.length) :
    Scan.take count ⟨whole, place⟩ =
        .ok ((whole.drop place).take count, ⟨whole, place + count⟩) ∧
      Read.take count ⟨place, whole.drop place⟩ =
        .ok ((whole.drop place).take count, ⟨place + count, whole.drop (place + count)⟩) := by
  have available : ((whole.drop place).take count).length = count := by
    rw [List.length_take, List.length_drop]
    omega
  constructor
  · unfold Scan.take
    dsimp only
    rw [difference_eq_ok (by omega)]
    show (if whole.length - place < count then _ else _ : Except Halt _) = _
    rw [if_neg (by omega), sum_eq_ok (by omega)]
    show slice whole place (place + count) >>= _ = _
    rw [slice_eq_ok (by omega) inside, List.drop_take, Nat.add_sub_cancel_left]
    rfl
  · unfold Read.take
    dsimp only
    rw [if_pos available, List.drop_drop]

section Fields

variable [AllowsCorruption allowed]

theorem mirrors_corrupt (fault : Corruption) :
    Mirrors allowed (Scan.corrupt fault : Scan Result) (Read.corrupt fault) :=
  mirrors_fail (AllowsCorruption.corruptData _)

theorem mirrors_unlessCorrupt {condition : Prop} [Decidable condition] {fault : Corruption}
    {scan : Scan Result} {read : Read Result} (rest : ¬condition → Mirrors allowed scan read) :
    Mirrors allowed (if condition then Scan.corrupt fault else scan)
      (if condition then Read.corrupt fault else read) :=
  mirrors_unless (AllowsCorruption.corruptData _) rest

theorem mirrors_take (count : Nat) : Mirrors allowed (Scan.take count) (Read.take count) := by
  intro whole place small inside
  by_cases enough : place + count ≤ whole.length
  · obtain ⟨scanned, given⟩ := run_take small enough
    rw [scanned, given]
    exact .done enough
  · have available : ((whole.drop place).take count).length = whole.length - place := by
      rw [List.length_take, List.length_drop]
      omega
    unfold Scan.take Read.take
    dsimp only
    rw [difference_eq_ok inside, available, if_neg (by omega)]
    show Agrees allowed whole (if whole.length - place < count then _ else _) _
    rw [if_pos (by omega)]
    exact .refused (AllowsCorruption.corruptData _)

theorem mirrors_byte : Mirrors allowed Scan.byte Read.byte := by
  rw [Read.byte_eq]
  refine (mirrors_take 1).bind_sound (Read.sound_take 1) ?_
  rintro _ taken ⟨rfl, single⟩
  obtain ⟨byte, rfl⟩ := List.length_eq_one_iff.1 single
  exact mirrors_pure byte

theorem mirrors_vector (count : Nat) : Mirrors allowed (Scan.vector count) (Read.vector count) := by
  rw [Read.vector_eq]
  refine (mirrors_take count).bind_sound (Read.sound_take count) ?_
  rintro _ taken ⟨rfl, exact⟩
  rw [dif_pos exact, dif_pos exact]
  exact mirrors_pure _

theorem mirrors_number (width : Nat) (ofBytes : Bytes → Result) :
    Mirrors allowed (Scan.number width ofBytes) (ofBytes <$> Read.take width) := by
  rw [Read.take_eq, Functor.map_map]
  exact (mirrors_vector width).map fun taken => ofBytes taken.toList

theorem mirrors_int32 : Mirrors allowed Scan.int32 Read.int32 := mirrors_number 4 _

theorem mirrors_uint32 : Mirrors allowed Scan.uint32 Read.uint32 := mirrors_number 4 _

theorem mirrors_int64 : Mirrors allowed Scan.int64 Read.int64 := mirrors_number 8 _

theorem mirrors_uint64 : Mirrors allowed Scan.uint64 Read.uint64 := mirrors_number 8 _

theorem mirrors_peekInt32 : Mirrors allowed Scan.peekInt32 Read.peekInt32 := by
  intro whole place small inside
  have agrees : Agrees allowed whole _ _ := mirrors_int32 small inside
  unfold Scan.peekInt32 Read.peekInt32
  generalize Scan.int32 ⟨whole, place⟩ = scanned at agrees ⊢
  generalize Read.int32 ⟨place, whole.drop place⟩ = given at agrees ⊢
  cases agrees with
  | done => exact .done inside
  | refused kind => exact .refused kind

theorem mirrors_length : Mirrors allowed Scan.length Read.length :=
  mirrors_int32.bind fun number => mirrors_unlessCorrupt fun _ => mirrors_pure number.toInt.toNat

theorem mirrors_name : Mirrors allowed Scan.name Read.name := by
  intro whole place small inside
  unfold Scan.name Read.name
  dsimp only
  rw [slice_to_end inside, ok_bind]
  cases found : (whole.drop place).findIdx? (· == 0) with
  | none =>
    rw [Read.unterminated found]
    exact .refused (AllowsCorruption.corruptData _)
  | some stop =>
    obtain ⟨before, front, back⟩ := Read.name_parts found
    have fits : place + (stop + 1) ≤ whole.length := by
      rw [List.length_drop] at before
      omega
    rw [front, back]
    dsimp only
    rw [slice_eq_ok (Nat.zero_le _) (Nat.le_of_lt before), ok_bind, List.drop_zero,
      List.length_take_of_le (Nat.le_of_lt before), List.drop_drop]
    cases Utf8.decode ((whole.drop place).take stop) with
    | error fault => exact .refused (AllowsCorruption.corruptData _)
    | ok text =>
      dsimp only
      rw [sum_eq_ok (by omega), ok_bind, sum_eq_ok (by omega)]
      exact .done fits

theorem mirrors_text : Mirrors allowed Scan.text Read.text := by
  refine mirrors_length.bind fun count => mirrors_unlessCorrupt fun nonzero => ?_
  refine (mirrors_take count).bind_sound (Read.sound_take count) ?_
  rintro taken _ ⟨rfl, size⟩
  have positive : 1 ≤ count := Nat.one_le_iff_ne_zero.2 nonzero
  obtain ⟨last, ended, found⟩ := index_last positive size
  rw [liftM_bind (difference_eq_ok positive), liftM_bind found, ended]
  simp only [ne_eq, Option.some.injEq]
  refine mirrors_unlessCorrupt fun _ => ?_
  rw [liftM_bind (slice_to_last (Nat.zero_le _) size), List.drop_zero]
  cases Utf8.decode taken.dropLast with
  | ok text => exact mirrors_pure text
  | error fault => exact mirrors_corrupt _

end Fields

/-! ### Repetition -/

section Loops

variable {scan : State → Scan State} {read : State → Read State}
  (step : ∀ state, Mirrors allowed (scan state) (read state))
  (progress : ∀ state, Read.Sound (read state) fun _ head => head ≠ [])
include step progress

theorem agrees_repeatWhile {whole : Bytes} (small : whole.length < Machine.largest) (count : Nat)
    (state : State) (place : Nat) (inside : place ≤ whole.length)
    (enough : whole.length - place ≤ count) :
    Agrees allowed whole (Scan.repeatWhile scan count state ⟨whole, place⟩)
      (Read.repeatUpTo read count state ⟨place, whole.drop place⟩) := by
  induction count generalizing state place with
  | zero =>
    have ended : (whole.drop place).isEmpty = true := by
      rw [List.drop_eq_nil_of_le (by omega)]
      rfl
    rw [Scan.repeatWhile]
    show Agrees allowed whole (Scan.isEmpty ⟨whole, place⟩ >>= _) _
    rw [run_isEmpty inside, ended]
    exact .done inside
  | succ count inductionHypothesis =>
    rw [Scan.repeatWhile, Read.repeatUpTo]
    refine agrees_bind (mirrors_isEmpty small inside) fun ended later inside looked => ?_
    obtain rfl : place = later := congrArg (·.2.position) (Except.ok.inj looked)
    cases ended with
    | true => exact .done inside
    | false =>
      refine agrees_bind (step state small inside) fun middle later before ran => ?_
      obtain ⟨head, nonempty, split⟩ := progress state ran
      have fewer := congrArg List.length split
      have taken := List.length_pos_iff.2 nonempty
      rw [List.length_append, List.length_drop, List.length_drop] at fewer
      exact inductionHypothesis middle later before (by omega)

theorem mirrors_untilEmpty (state : State) :
    Mirrors allowed (Scan.untilEmpty scan state) (Read.untilEnd read state) := by
  intro whole place small inside
  unfold Scan.untilEmpty Read.untilEnd
  dsimp only
  rw [List.length_drop]
  exact agrees_repeatWhile step progress small _ state place inside (Nat.le_refl _)

end Loops

theorem mirrors_listUntilEmpty {scan : Scan Item} {read : Read Item} (item : Mirrors allowed scan read)
    (progress : Read.Sound read fun _ head => head ≠ []) :
    Mirrors allowed (Scan.listUntilEmpty scan) (Read.listUntilEnd read) := by
  refine Mirrors.bind (mirrors_untilEmpty
    (fun items => item.bind fun first => mirrors_pure (first :: items)) (fun items => ?_) [])
    fun reversed => mirrors_pure reversed.reverse
  refine (progress.map (· :: items)).weaken ?_
  rintro _ head ⟨_, nonempty, _⟩
  exact nonempty

end InPlace

end DocumentDriver
