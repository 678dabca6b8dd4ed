/-
This file says what it means to read a field. An action takes some bytes if it gives the same
result whatever follows them and leaves exactly what follows; it exhausts some bytes if it needs
nothing to follow; and it fails on some bytes if nothing that follows can help. Fields are joined to
longer ones in these terms, so that no later proof has to look at positions.
-/

import DocumentDriver.Bytes.Reader

namespace DocumentDriver

namespace Read

variable {Result Next Item State : Type}

/-- The action takes exactly these bytes off the front and gives this result, whatever follows. -/
def Takes (action : Read Result) (bytes : Bytes) (result : Result) : Prop :=
  ∀ position rest,
    action ⟨position, bytes ++ rest⟩ = .ok (result, ⟨position + bytes.length, rest⟩)

/-- The action takes all of these bytes and gives this result. -/
def Exhausts (action : Read Result) (bytes : Bytes) (result : Result) : Prop :=
  ∀ position, action ⟨position, bytes⟩ = .ok (result, ⟨position + bytes.length, []⟩)

/-- The action fails when these bytes come next, whatever follows. -/
def Fails (action : Read Result) (bytes : Bytes) (error : Error) : Prop :=
  ∀ position rest, action ⟨position, bytes ++ rest⟩ = .error error

/-! ### Joining fields -/

theorem run_bind (first : Read Result) (next : Result → Read Next) (reader : Reader) :
    (first >>= next) reader = first reader >>= fun pair => next pair.1 pair.2 := rfl

theorem run_bind_of_eq_ok {first : Read Result} {next : Result → Read Next}
    {reader between : Reader} {middle : Result} (ran : first reader = .ok (middle, between)) :
    (first >>= next) reader = next middle between := by
  rw [run_bind, ran]
  rfl

theorem takes_pure (result : Result) : Takes (pure result) [] result :=
  fun _ _ => rfl

/-- What takes no bytes leaves every reader as it is. -/
theorem Takes.run {action : Read Result} {result : Result} (taken : Takes action [] result)
    (reader : Reader) : action reader = .ok (result, reader) :=
  taken reader.position reader.rest

theorem Takes.bind {first : Read Result} {next : Result → Read Next} {head tail : Bytes}
    {middle : Result} {result : Next} (taken : Takes first head middle)
    (follows : Takes (next middle) tail result) :
    Takes (first >>= next) (head ++ tail) result := by
  intro position rest
  rw [run_bind, List.append_assoc, taken]
  show next middle ⟨position + head.length, tail ++ rest⟩ = _
  rw [follows, List.length_append, Nat.add_assoc]

/-- After the last field the result may be worked on without reading further. -/
theorem Takes.bind_last {first : Read Result} {next : Result → Read Next} {bytes : Bytes}
    {middle : Result} {result : Next} (taken : Takes first bytes middle)
    (follows : Takes (next middle) [] result) : Takes (first >>= next) bytes result := by
  have joined := taken.bind follows
  rwa [List.append_nil] at joined

theorem Takes.bind_pure {first : Read Result} {bytes : Bytes} {middle : Result}
    (taken : Takes first bytes middle) (change : Result → Next) :
    Takes (first >>= fun result => pure (change result)) bytes (change middle) :=
  taken.bind_last (takes_pure (change middle))

theorem Takes.map {first : Read Result} {bytes : Bytes} {middle : Result}
    (taken : Takes first bytes middle) (change : Result → Next) :
    Takes (change <$> first) bytes (change middle) :=
  taken.bind_pure change

theorem Takes.exhausts {action : Read Result} {bytes : Bytes} {result : Result}
    (taken : Takes action bytes result) : Exhausts action bytes result := by
  intro position
  have last := taken position []
  rwa [List.append_nil] at last

theorem Takes.bind_exhausts {first : Read Result} {next : Result → Read Next}
    {head tail : Bytes} {middle : Result} {result : Next} (taken : Takes first head middle)
    (follows : Exhausts (next middle) tail result) :
    Exhausts (first >>= next) (head ++ tail) result := by
  intro position
  rw [run_bind, taken]
  show next middle ⟨position + head.length, tail⟩ = _
  rw [follows, List.length_append, Nat.add_assoc]

theorem Takes.bind_exhausts_last {first : Read Result} {next : Result → Read Next} {bytes : Bytes}
    {middle : Result} {result : Next} (taken : Takes first bytes middle)
    (follows : Exhausts (next middle) [] result) : Exhausts (first >>= next) bytes result := by
  have joined := taken.bind_exhausts follows
  rwa [List.append_nil] at joined

theorem Exhausts.bind {first : Read Result} {next : Result → Read Next} {bytes : Bytes}
    {middle : Result} {result : Next} (exhausted : Exhausts first bytes middle)
    (follows : Takes (next middle) [] result) : Exhausts (first >>= next) bytes result := by
  intro position
  rw [run_bind, exhausted]
  exact follows.exhausts _

theorem Exhausts.bind_pure {first : Read Result} {bytes : Bytes} {middle : Result}
    (exhausted : Exhausts first bytes middle) (change : Result → Next) :
    Exhausts (first >>= fun result => pure (change result)) bytes (change middle) :=
  exhausted.bind (takes_pure (change middle))

theorem Exhausts.map {first : Read Result} {bytes : Bytes} {middle : Result}
    (exhausted : Exhausts first bytes middle) (change : Result → Next) :
    Exhausts (change <$> first) bytes (change middle) :=
  exhausted.bind_pure change

theorem Fails.bind {first : Read Result} {bytes : Bytes} {error : Error}
    (failed : Fails first bytes error) (next : Result → Read Next) :
    Fails (first >>= next) bytes error := by
  intro position rest
  rw [run_bind, failed]
  rfl

theorem Fails.start {action : Read Result} {bytes : Bytes} {error : Error}
    (failed : Fails action bytes error) : action (Reader.start bytes) = .error error := by
  have alone := failed 0 []
  rwa [List.append_nil] at alone

theorem Takes.bind_fails {first : Read Result} {next : Result → Read Next} {head tail : Bytes}
    {middle : Result} {error : Error} (taken : Takes first head middle)
    (fails : Fails (next middle) tail error) :
    Fails (first >>= next) (head ++ tail) error := by
  intro position rest
  rw [run_bind, List.append_assoc, taken]
  exact fails _ _

theorem Takes.bind_fails_last {first : Read Result} {next : Result → Read Next} {bytes : Bytes}
    {middle : Result} {error : Error} (taken : Takes first bytes middle)
    (fails : Fails (next middle) [] error) : Fails (first >>= next) bytes error := by
  have joined := taken.bind_fails fails
  rwa [List.append_nil] at joined

/-- What has been taken out whole is read from its start, and nothing else is. -/
theorem takes_inside {bytes : Bytes} {inner : Read Result} {result : Result} {last : Reader}
    (ran : inner (Reader.start bytes) = .ok (result, last)) :
    Takes (Read.inside bytes inner) [] result := by
  intro position rest
  unfold Read.inside
  rw [ran]
  rfl

theorem Exhausts.inside {inner : Read Result} {bytes : Bytes} {result : Result}
    (exhausted : Exhausts inner bytes result) : Takes (Read.inside bytes inner) [] result :=
  takes_inside (exhausted 0)

theorem fails_inside {inner : Read Result} {bytes : Bytes} {error : Error}
    (failed : inner (Reader.start bytes) = .error error) :
    Fails (Read.inside bytes inner) [] error := by
  intro position rest
  unfold Read.inside
  rw [failed]

/-- A step that needs no bytes gives what it gives. -/
theorem takes_liftM {step : Except Error Result} {result : Result} (given : step = .ok result) :
    Takes (liftM step) [] result := by
  subst given
  exact fun _ _ => rfl

/-! ### Single fields -/

theorem takes_byte (byte : UInt8) : Takes Read.byte [byte] byte :=
  fun _ _ => rfl

theorem takes_take (bytes : Bytes) : Takes (take bytes.length) bytes bytes := by
  intro position rest
  unfold take
  rw [List.take_left, if_pos rfl, List.drop_left]

theorem takes_vector (count : Nat) (vector : Vector UInt8 count) :
    Takes (Read.vector count) vector.toList vector := by
  intro position rest
  have exact : vector.toList.length = count := vector.length_toList
  have front : (vector.toList ++ rest).take count = vector.toList := List.take_left' exact
  have whole : ((vector.toList ++ rest).take count).length = count := by rw [front, exact]
  have same : (⟨((vector.toList ++ rest).take count).toArray, whole⟩ : Vector UInt8 count) =
      vector := by
    apply Vector.toArray_inj.1
    show ((vector.toList ++ rest).take count).toArray = vector.toArray
    rw [front]
    exact Array.toArray_toList
  unfold Read.vector
  dsimp only
  rw [dif_pos whole, same, List.drop_left' exact, exact]

/-- Where bytes are left, the end is not reached. -/
theorem Exhausts.before_end {next : Bool → Read Next} {bytes : Bytes} {result : Next}
    (follows : Exhausts (next false) bytes result) (some : bytes ≠ []) :
    Exhausts (atEnd >>= next) bytes result := by
  obtain ⟨first, rest, rfl⟩ := List.exists_cons_of_ne_nil some
  exact fun position => follows position

theorem Exhausts.at_end {next : Bool → Read Next} {result : Next}
    (follows : Exhausts (next true) [] result) : Exhausts (atEnd >>= next) [] result :=
  fun position => follows position

theorem exhausts_remainder (bytes : Bytes) : Exhausts remainder bytes bytes :=
  fun _ => rfl

/-! ### Numbers -/

theorem toInt32_ofInt32 (number : Int32) : Bytes.toInt32 (Bytes.ofInt32 number) = number := by
  have small : number.toUInt32.toNat < 1 <<< (8 * 4) := number.toUInt32.toNat_lt
  unfold Bytes.toInt32 Bytes.ofInt32
  rw [fromLittleEndian_littleEndian, Nat.mod_eq_of_lt small]
  simp

theorem toInt64_ofInt64 (number : Int64) : Bytes.toInt64 (Bytes.ofInt64 number) = number := by
  have small : number.toUInt64.toNat < 1 <<< (8 * 8) := number.toUInt64.toNat_lt
  unfold Bytes.toInt64 Bytes.ofInt64
  rw [fromLittleEndian_littleEndian, Nat.mod_eq_of_lt small]
  simp

theorem toUInt32_ofUInt32 (number : UInt32) : Bytes.toUInt32 (Bytes.ofUInt32 number) = number := by
  have small : number.toNat < 1 <<< (8 * 4) := number.toNat_lt
  unfold Bytes.toUInt32 Bytes.ofUInt32
  rw [fromLittleEndian_littleEndian, Nat.mod_eq_of_lt small]
  simp

/-- A length that fits 31 bits is read back as it is. -/
theorem toInt_toInt32_littleEndian (count : Nat) (small : count < 2 ^ 31) :
    (Bytes.toInt32 (littleEndian 4 count)).toInt = count := by
  have inside : count < 1 <<< (8 * 4) := Nat.lt_trans small (by decide)
  unfold Bytes.toInt32
  rw [fromLittleEndian_littleEndian, Nat.mod_eq_of_lt inside, UInt32.toInt32_ofNat',
    Int32.toInt_ofNat_of_lt small]

/-- A field of fixed width is read back from its written form. -/
theorem takes_number (width : Nat) (ofBytes : Bytes → Result) (bytes : Bytes) (result : Result)
    (exact : bytes.length = width) (same : ofBytes bytes = result) :
    Takes (ofBytes <$> take width) bytes result := by
  subst exact same
  exact (takes_take bytes).map ofBytes

theorem takes_int32 (number : Int32) : Takes int32 (Bytes.ofInt32 number) number :=
  takes_number 4 _ _ _ (length_littleEndian _ _) (toInt32_ofInt32 number)

theorem takes_int64 (number : Int64) : Takes int64 (Bytes.ofInt64 number) number :=
  takes_number 8 _ _ _ (length_littleEndian _ _) (toInt64_ofInt64 number)

theorem takes_uint32 (number : UInt32) : Takes uint32 (Bytes.ofUInt32 number) number :=
  takes_number 4 _ _ _ (length_littleEndian _ _) (toUInt32_ofUInt32 number)

theorem takes_uint64 (number : UInt64) : Takes uint64 (littleEndian 8 number.toNat) number := by
  have small : number.toNat < 1 <<< (8 * 8) := number.toNat_lt
  refine takes_number 8 _ _ _ (length_littleEndian _ _) ?_
  unfold Bytes.toUInt64
  rw [fromLittleEndian_littleEndian, Nat.mod_eq_of_lt small]
  simp

/-- Looking at a number gives what taking it gives. -/
theorem peekInt32_of_takes {bytes : Bytes} {number : Int32} (taken : Takes int32 bytes number)
    (position : Nat) (rest : Bytes) :
    peekInt32 ⟨position, bytes ++ rest⟩ = .ok (number, ⟨position, bytes ++ rest⟩) := by
  unfold peekInt32
  rw [taken]

/-- A length is read back if it fits 31 bits. -/
theorem takes_length (count : Nat) (small : count < 2 ^ 31) :
    Takes length (littleEndian 4 count) count := by
  have number : Takes int32 (littleEndian 4 count) (Bytes.toInt32 (littleEndian 4 count)) :=
    takes_number 4 _ _ _ (length_littleEndian _ _) rfl
  have value := toInt_toInt32_littleEndian count small
  intro position rest
  unfold length
  rw [run_bind, number]
  show (if (Bytes.toInt32 (littleEndian 4 count)).toInt < 0 then _ else _ : Read Nat) _ = _
  rw [if_neg (by omega), value]
  rfl

/-! ### Texts -/

/-- A name without a zero byte is read back up to the zero byte behind it. -/
theorem takes_name (text : String) (clean : 0 ∉ Utf8.encode text) :
    Takes name (Utf8.encode text ++ [0]) text := by
  have nonzero : ∀ byte ∈ Utf8.encode text, (byte != 0) = true :=
    fun byte member => bne_iff_ne.2 fun zero => clean (zero ▸ member)
  intro position rest
  have split : Utf8.encode text ++ [0] ++ rest = Utf8.encode text ++ 0 :: rest := by simp
  unfold name
  dsimp only
  rw [split, List.takeWhile_append_of_pos nonzero, List.dropWhile_append_of_pos nonzero]
  simp

/-- A text whose length fits is read back. -/
theorem takes_text (text : String) (small : (Utf8.encode text).length + 1 < 2 ^ 31) :
    Takes Read.text (littleEndian 4 ((Utf8.encode text).length + 1) ++ (Utf8.encode text ++ [0]))
      text := by
  have taken : Takes (take ((Utf8.encode text).length + 1)) (Utf8.encode text ++ [0])
      (Utf8.encode text ++ [0]) := by
    have whole := takes_take (Utf8.encode text ++ [0])
    rwa [List.length_append, List.length_singleton] at whole
  refine (takes_length _ small).bind ?_
  rw [if_neg (Nat.succ_ne_zero _)]
  refine taken.bind_last ?_
  rw [if_neg (by simp), List.dropLast_concat, Utf8.decode_encode]
  exact takes_pure text

/-! ### Repetition -/

/-- A repeated step goes through these bytes in portions of at least one byte, from one state to
another. -/
inductive Steps (step : State → Read State) : State → Bytes → State → Prop
  | done (state : State) : Steps step state [] state
  | more {before middle after : State} {head tail : Bytes} (taken : Takes (step before) head middle)
      (some : head ≠ []) (others : Steps step middle tail after) :
      Steps step before (head ++ tail) after

/-- As many repetitions as there are bytes are enough to get through some of them, and enough are
left for the rest. -/
theorem Steps.repeatUpTo {step : State → Read State} {before after : State} {bytes : Bytes}
    (steps : Steps step before bytes after) (rest : Bytes) (position count : Nat)
    (enough : (bytes ++ rest).length ≤ count) :
    ∃ left, rest.length ≤ left ∧ Read.repeatUpTo step count before ⟨position, bytes ++ rest⟩ =
      Read.repeatUpTo step left after ⟨position + bytes.length, rest⟩ := by
  induction steps generalizing position count with
  | done state => exact ⟨count, enough, rfl⟩
  | @more before middle after head tail taken some others inductionHypothesis =>
    obtain ⟨first, front, rfl⟩ := List.exists_cons_of_ne_nil some
    cases count with
    | zero => simp at enough
    | succ count =>
      -- A portion has at least one byte, so one repetition less is still enough for the others.
      rw [List.append_assoc, List.length_append, List.length_cons] at enough
      obtain ⟨left, remaining, same⟩ := inductionHypothesis (position + (first :: front).length)
        count (by omega)
      refine ⟨left, remaining, ?_⟩
      rw [List.append_assoc, List.length_append, ← Nat.add_assoc, ← same]
      show (step before >>= Read.repeatUpTo step count) _ = _
      rw [run_bind, taken]
      rfl

theorem repeatUpTo_nil (step : State → Read State) (count : Nat) (state : State)
    (position : Nat) :
    Read.repeatUpTo step count state ⟨position, []⟩ = .ok (state, ⟨position, []⟩) := by
  cases count <;> rfl

/-- Steps that get through all bytes are the whole repetition. -/
theorem Steps.exhausts {step : State → Read State} {before after : State} {bytes : Bytes}
    (steps : Steps step before bytes after) : Exhausts (untilEnd step before) bytes after := by
  intro position
  obtain ⟨left, -, same⟩ := steps.repeatUpTo [] position bytes.length (by simp)
  rw [List.append_nil] at same
  show Read.repeatUpTo step bytes.length before ⟨position, bytes⟩ = _
  rw [same, repeatUpTo_nil]

/-- A repetition fails as soon as one of its steps does. -/
theorem Steps.fails {step : State → Read State} {before middle : State} {front head : Bytes}
    {error : Error} (steps : Steps step before front middle)
    (failed : Fails (step middle) head error) (some : head ≠ []) (tail : Bytes) (position : Nat) :
    untilEnd step before ⟨position, front ++ (head ++ tail)⟩ = .error error := by
  obtain ⟨left, enough, same⟩ := steps.repeatUpTo (head ++ tail) position
    (front ++ (head ++ tail)).length (Nat.le_refl _)
  obtain ⟨first, others, rfl⟩ := List.exists_cons_of_ne_nil some
  show Read.repeatUpTo step _ before ⟨position, _⟩ = _
  rw [same]
  cases left with
  | zero => simp at enough
  | succ left =>
    show (step middle >>= Read.repeatUpTo step left) _ = _
    rw [run_bind, failed]
    rfl

/-- An action takes these items one after the other, each from at least one byte. -/
inductive TakesEach (item : Read Item) : Bytes → List Item → Prop
  | nil : TakesEach item [] []
  | cons {head tail : Bytes} {first : Item} {rest : List Item} (taken : Takes item head first)
      (some : head ≠ []) (others : TakesEach item tail rest) :
      TakesEach item (head ++ tail) (first :: rest)

theorem TakesEach.steps {item : Read Item} {bytes : Bytes} {items : List Item}
    (each : TakesEach item bytes items) (reversed : List Item) :
    Steps (fun items => do return (← item) :: items) reversed bytes
      (items.reverse ++ reversed) := by
  induction each generalizing reversed with
  | nil => exact .done reversed
  | cons taken some others inductionHypothesis =>
    rw [List.reverse_cons, List.append_assoc]
    exact .more (taken.bind_pure (· :: reversed)) some (inductionHypothesis _)

theorem TakesEach.exhausts {item : Read Item} {bytes : Bytes} {items : List Item}
    (each : TakesEach item bytes items) : Exhausts (listUntilEnd item) bytes items := by
  have listed := (each.steps []).exhausts.bind_pure List.reverse
  rwa [List.append_nil, List.reverse_reverse] at listed

theorem TakesEach.fails {item : Read Item} {front head : Bytes} {items : List Item}
    {error : Error} (each : TakesEach item front items) (failed : Fails item head error)
    (some : head ≠ []) (tail : Bytes) :
    listUntilEnd item (Reader.start (front ++ (head ++ tail))) = .error error := by
  unfold listUntilEnd Reader.start
  rw [run_bind, (each.steps []).fails (failed.bind _) some tail 0]
  rfl

end Read

end DocumentDriver
