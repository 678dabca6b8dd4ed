/-
This file proves how the written forms of a server address belong together. Whatever way an address
was written, in capitals or not and between any blanks, it is the same address. Its own written form is
read as this address again if the host has a colon, so that brackets are put around it, or if it begins
with neither a bracket nor a blank. Every host that was written without brackets is of this kind. One in
brackets need not be: `[[left]` is read as an address whose written form lacks its closing bracket.

What a text says is put down as `Writes`, the four forms in which a host and a port may be written, and
the reader is shown to read exactly these.
-/

import DocumentDriver.Proofs.Document.Written
import DocumentDriver.Proofs.Text.Split
import DocumentDriver.Server.Address

namespace DocumentDriver

namespace ServerAddress

open Split

/-! ### The written forms -/

/-- A host that can be told from what stands around it without brackets. -/
structure IsPlain (host : List Char) : Prop where
  noColon : ':' ∉ host
  begins : ∀ first ∈ host.head?, first ≠ '[' ∧ isBlank first = false

/-- How a host, and a port if there is one, are written. -/
inductive Writes (host : List Char) : Option (List Char) → List Char → Prop
  | plain (noColon : ':' ∉ host) (noBracket : host.head? ≠ some '[') : Writes host none host
  | plainPort (port : List Char) (noColon : ':' ∉ host) (noBracket : host.head? ≠ some '[')
      (single : ':' ∉ port) : Writes host (some port) (host ++ ':' :: port)
  | bracketed (closed : ']' ∉ host) : Writes host none ('[' :: (host ++ [']']))
  | bracketedPort (port : List Char) (closed : ']' ∉ host) :
      Writes host (some port) ('[' :: (host ++ ']' :: ':' :: port))

/-- What is read behind an opening bracket. -/
def behindBracket (rest : List Char) : Except Fault (List Char × Option (List Char)) :=
  match first? ']' rest with
  | none => .error .unterminated
  | some (host, []) => .ok (host, none)
  | some (host, ':' :: port) => .ok (host, some port)
  | some (_, _ :: _) => .error .malformed

/-- What is read without brackets. -/
def withoutBracket (text : List Char) : Except Fault (List Char × Option (List Char)) :=
  match last? ':' text with
  | none => .ok (text, none)
  | some (host, port) => if ':' ∈ host then .error .unbracketed else .ok (host, some port)

theorem split_bracket (rest : List Char) : split ('[' :: rest) = behindBracket rest := rfl

theorem split_of_noBracket {text : List Char} (noBracket : text.head? ≠ some '[') :
    split text = withoutBracket text := by
  unfold split
  split
  · exact absurd rfl noBracket
  · rfl

theorem writes_of_split {text host : List Char} {port : Option (List Char)}
    (read : split text = .ok (host, port)) : Writes host port text := by
  by_cases bracket : text.head? = some '['
  · obtain ⟨rest, rfl⟩ := List.head?_eq_some_iff.1 bracket
    rw [split_bracket, behindBracket] at read
    split at read
    · cases read
    · next inside found =>
      obtain ⟨rfl, closed⟩ := first?_eq_some_iff.1 found
      cases read
      exact .bracketed closed
    · next inside number found =>
      obtain ⟨rfl, closed⟩ := first?_eq_some_iff.1 found
      cases read
      exact .bracketedPort number closed
    · cases read
  · rw [split_of_noBracket bracket, withoutBracket] at read
    split at read
    · next absent =>
      cases read
      exact .plain (last?_eq_none_iff.1 absent) bracket
    · next inside number found =>
      obtain ⟨rfl, single⟩ := last?_eq_some_iff.1 found
      split at read
      · cases read
      · next noColon =>
        cases read
        refine .plainPort number noColon (fun begins => bracket ?_) single
        rw [List.head?_append, begins]
        rfl

theorem Writes.split {text host : List Char} {port : Option (List Char)}
    (written : Writes host port text) : split text = .ok (host, port) := by
  cases written with
  | plain noColon noBracket =>
    rw [split_of_noBracket noBracket, withoutBracket, last?_eq_none_iff.2 noColon]
  | plainPort port noColon noBracket single =>
    have other : (host ++ ':' :: port).head? ≠ some '[' := by
      cases host with
      | nil => exact fun bracket => absurd (Option.some.inj bracket) (by decide)
      | cons first rest => exact noBracket
    rw [split_of_noBracket other, withoutBracket, last?_append single]
    exact if_neg noColon
  | bracketed closed => rw [split_bracket, behindBracket, first?_append closed]
  | bracketedPort port closed =>
    rw [split_bracket, behindBracket, first?_append closed]
    rfl

theorem Writes.ne_nil {text host : List Char} {port : Option (List Char)}
    (written : Writes host port text) (present : host ≠ []) : text ≠ [] := by
  cases written with
  | plain => exact present
  | plainPort => simp
  | bracketed => simp
  | bracketedPort => simp

/-- The address of a host and the text of a port. -/
def ofParts (parts : List Char × Option (List Char)) : Except Fault ServerAddress :=
  if parts.1.isEmpty then .error .missingHost
  else portOf parts.2 >>= fun number => .ok (of parts.1 number)

theorem parseChars_eq (text : List Char) :
    parseChars text =
      if (trim text).isEmpty then .error .empty else split (trim text) >>= ofParts := rfl

theorem ofParts_eq_ok_iff {host : List Char} {port : Option (List Char)} {address : ServerAddress} :
    ofParts (host, port) = .ok address ↔
      host ≠ [] ∧ ∃ number, portOf port = .ok number ∧ address = of host number := by
  unfold ofParts
  split
  · next empty =>
    exact ⟨fun read => (by cases read), fun made => absurd (List.isEmpty_iff.1 empty) made.1⟩
  · next present =>
    rw [bind_eq_ok_iff]
    exact ⟨fun ⟨number, counted, made⟩ => ⟨mt List.isEmpty_iff.2 present, number, counted,
      (Except.ok.inj made).symm⟩, fun ⟨_, number, counted, made⟩ => ⟨number, counted, made ▸ rfl⟩⟩

/-- Which texts are read as an address, and as which. -/
theorem parseChars_eq_ok_iff {text : List Char} {address : ServerAddress} :
    parseChars text = .ok address ↔ ∃ host port number, Writes host port (trim text) ∧ host ≠ [] ∧
      portOf port = .ok number ∧ address = of host number := by
  rw [parseChars_eq]
  constructor
  · intro read
    split at read
    · cases read
    · obtain ⟨⟨host, port⟩, parts, made⟩ := bind_eq_ok_iff.1 read
      obtain ⟨present, number, counted, rfl⟩ := ofParts_eq_ok_iff.1 made
      exact ⟨host, port, number, writes_of_split parts, present, counted, rfl⟩
  · rintro ⟨host, port, number, written, present, counted, rfl⟩
    rw [if_neg (mt List.isEmpty_iff.1 (written.ne_nil present)), written.split]
    exact ofParts_eq_ok_iff.2 ⟨present, number, counted, rfl⟩

/-! ### The case of letters -/

theorem behindBracket_lower (rest : List Char) :
    behindBracket (lower rest) = (behindBracket rest).map (Prod.map lower (Option.map lower)) := by
  rw [behindBracket, behindBracket, lower, first?_map Char.toLower (toLower_beq (by decide))]
  cases first? ']' rest with
  | none => rfl
  | some parts =>
    obtain ⟨host, tail⟩ := parts
    cases tail with
    | nil => rfl
    | cons mark port =>
      by_cases colon : mark = ':'
      · subst colon
        rfl
      · have other : mark.toLower ≠ ':' := mt (toLower_eq_iff (by decide) mark).1 colon
        simp only [Option.map_some, Prod.map, List.map_cons]
        rfl

theorem withoutBracket_lower (text : List Char) :
    withoutBracket (lower text) = (withoutBracket text).map (Prod.map lower (Option.map lower)) := by
  rw [withoutBracket, withoutBracket, lower, last?_map Char.toLower (toLower_beq (by decide))]
  cases last? ':' text with
  | none => rfl
  | some parts =>
    obtain ⟨host, port⟩ := parts
    by_cases colon : ':' ∈ host
    · have small : ':' ∈ host.map Char.toLower := (mem_lower_iff (by decide)).2 colon
      simp only [Option.map_some, Prod.map, if_pos colon, if_pos small]
      rfl
    · have small : ':' ∉ host.map Char.toLower := mt (mem_lower_iff (by decide)).1 colon
      simp only [Option.map_some, Prod.map, if_neg colon, if_neg small]
      rfl

theorem split_lower (text : List Char) :
    split (lower text) = (split text).map (Prod.map lower (Option.map lower)) := by
  by_cases bracket : text.head? = some '['
  · obtain ⟨rest, rfl⟩ := List.head?_eq_some_iff.1 bracket
    exact behindBracket_lower rest
  · rw [split_of_noBracket bracket,
      split_of_noBracket (mt (head?_lower_eq_iff (by decide)).1 bracket), withoutBracket_lower]

theorem portOf_lower (port : Option (List Char)) : portOf (port.map lower) = portOf port := by
  cases port with
  | none => rfl
  | some text =>
    change portOf (some (lower text)) = portOf (some text)
    rw [portOf, portOf, number?_lower]

theorem of_lower (host : List Char) (port : UInt16) : of (lower host) port = of host port := by
  rw [of, of, lower_lower]

theorem ofParts_lower (parts : List Char × Option (List Char)) :
    ofParts (parts.map lower (Option.map lower)) = ofParts parts := by
  have same : (lower parts.1).isEmpty = parts.1.isEmpty := List.isEmpty_map
  change (if (lower parts.1).isEmpty then _ else
    portOf (parts.2.map lower) >>= fun number => .ok (of (lower parts.1) number)) = _
  rw [same, portOf_lower, funext (of_lower parts.1), ofParts]

/-- Capitals do not count. -/
theorem parseChars_lower (text : List Char) : parseChars (lower text) = parseChars text := by
  have same : (lower (trim text)).isEmpty = (trim text).isEmpty := List.isEmpty_map
  rw [parseChars_eq, parseChars_eq, trim_lower, split_lower, same]
  cases split (trim text) with
  | error fault => rfl
  | ok parts =>
    refine congrArg (ite _ _) ?_
    exact ofParts_lower parts

/-- Two texts that differ in the case of letters and in the blanks around them only. -/
def AreAlike (text other : List Char) : Prop :=
  ∃ before inner after otherBefore otherInner otherAfter,
    text = before ++ inner ++ after ∧ other = otherBefore ++ otherInner ++ otherAfter ∧
    lower inner = lower otherInner ∧
    ∀ blank ∈ before ++ after ++ (otherBefore ++ otherAfter), isBlank blank = true

theorem AreAlike.lower_trim {text other : List Char} (alike : AreAlike text other) :
    lower (trim text) = lower (trim other) := by
  obtain ⟨before, inner, after, otherBefore, otherInner, otherAfter, rfl, rfl, same, blank⟩ := alike
  simp only [List.mem_append, or_imp, forall_and] at blank
  obtain ⟨⟨front, back⟩, otherFront, otherBack⟩ := blank
  rw [trim_append inner front back, trim_append otherInner otherFront otherBack, ← trim_lower, same,
    trim_lower]

theorem parseChars_trim (text : List Char) : parseChars (trim text) = parseChars text := by
  rw [parseChars_eq, parseChars_eq, trim_trim]

theorem AreAlike.parseChars_eq {text other : List Char} (alike : AreAlike text other) :
    parseChars text = parseChars other := by
  rw [← parseChars_trim text, ← parseChars_lower (trim text), alike.lower_trim, parseChars_lower,
    parseChars_trim]

/-! ### Reading a written address -/

theorem isPlain_lower {host : List Char} (plain : IsPlain host) : IsPlain (lower host) := by
  refine ⟨mt (mem_lower_iff (by decide)).1 plain.noColon, fun first begins => ?_⟩
  rw [lower, List.head?_map] at begins
  obtain ⟨character, found, rfl⟩ := Option.map_eq_some_iff.1 begins
  obtain ⟨bracket, blank⟩ := plain.begins character found
  exact ⟨mt (toLower_eq_iff (by decide) character).1 bracket, (isBlank_toLower character).trans blank⟩

/-- The host of a text is plain, or it stands in brackets that end where the host does. -/
theorem Writes.isPlain_or {text host : List Char} {port : Option (List Char)}
    (written : Writes host port (trim text)) :
    IsPlain host ∨ ']' ∉ host ∧ (trim text).head? = some '[' ∧ ']' ∈ trim text := by
  have blankless (first : Char) : first ∈ (trim text).head? → isBlank first = false :=
    isBlank_head_trim
  generalize trim text = trimmed at written blankless ⊢
  cases written with
  | plain noColon noBracket =>
    exact .inl ⟨noColon, fun first begins =>
      ⟨fun same => noBracket (same ▸ begins), blankless first begins⟩⟩
  | plainPort port noColon noBracket single =>
    refine .inl ⟨noColon, fun first begins => ⟨fun same => noBracket (same ▸ begins), ?_⟩⟩
    refine blankless first ?_
    rw [List.head?_append, Option.mem_def.1 begins]
    rfl
  | bracketed closed => exact .inr ⟨closed, rfl, by simp⟩
  | bracketedPort port closed => exact .inr ⟨closed, rfl, by simp⟩

/-- What is known of an address that was read: its host is there and has no capitals, its port is not
zero, and its host is plain or was written in brackets that end where the host does. -/
structure IsRead (text : List Char) (address : ServerAddress) : Prop where
  present : address.host.toList ≠ []
  small : lower address.host.toList = address.host.toList
  positive : address.port ≠ 0
  isPlain_or : IsPlain address.host.toList ∨
    ']' ∉ address.host.toList ∧ (trim text).head? = some '[' ∧ ']' ∈ trim text

theorem portOf_ne_zero {port : Option (List Char)} {number : UInt16}
    (counted : portOf port = .ok number) : number ≠ 0 := by
  unfold portOf at counted
  split at counted
  · cases counted
    decide
  · next text =>
    split at counted
    · cases counted
    · cases counted
    · next found positive read =>
      cases counted
      have within := le_of_number? read
      intro zero
      have none := congrArg UInt16.toNat zero
      rw [UInt16.toNat_ofNat_of_lt' (Nat.lt_succ_of_le within)] at none
      exact positive none

theorem isRead_of_parseChars {text : List Char} {address : ServerAddress}
    (read : parseChars text = .ok address) : IsRead text address := by
  obtain ⟨host, port, number, written, present, counted, rfl⟩ := parseChars_eq_ok_iff.1 read
  have shown : (of host number).host.toList = lower host := String.toList_ofList
  refine ⟨?_, ?_, portOf_ne_zero counted, ?_⟩
  · rw [shown]
    exact mt List.map_eq_nil_iff.1 present
  · rw [shown, lower_lower]
  · rw [shown, mem_lower_iff (by decide)]
    exact written.isPlain_or.imp_left isPlain_lower

theorem toList_display (address : ServerAddress) :
    address.display.toList =
      if ':' ∈ address.host.toList then
        '[' :: (address.host.toList ++ ']' :: ':' :: Nat.toDigits 10 address.port.toNat)
      else address.host.toList ++ ':' :: Nat.toDigits 10 address.port.toNat := by
  unfold display
  split <;> simp [Nat.toList_repr] <;> rfl

theorem portOf_toDigits {port : UInt16} (positive : port ≠ 0) :
    portOf (some (Nat.toDigits 10 port.toNat)) = .ok port := by
  have within : port.toNat ≤ 65535 := Nat.le_of_lt_succ port.toNat_lt
  unfold portOf
  dsimp only
  rw [number?_toDigits within]
  split
  · next absent => cases absent
  · next zero => exact absurd (UInt16.toNat_inj.1 (Option.some.inj zero)) positive
  · next number _ same => rw [← Option.some.inj same, UInt16.ofNat_toNat]

/-- The written form of an address stands for the address: brackets are put around a host with a colon,
and no other host needs them. -/
def IsReadable (address : ServerAddress) : Prop :=
  ':' ∈ address.host.toList ∨ IsPlain address.host.toList

/-- The written form of a readable address is one of the forms of its host and port. -/
theorem IsRead.writes_display {text : List Char} {address : ServerAddress}
    (known : IsRead text address) (readable : address.IsReadable) :
    Writes address.host.toList (some (Nat.toDigits 10 address.port.toNat))
      (trim address.display.toList) := by
  rw [toList_display]
  by_cases colon : ':' ∈ address.host.toList
  · have closed := (known.isPlain_or.resolve_left fun plain => plain.noColon colon).1
    have ends : Nat.toDigits 10 address.port.toNat <:+ '[' :: (address.host.toList ++
        ']' :: ':' :: Nat.toDigits 10 address.port.toNat) :=
      ⟨'[' :: (address.host.toList ++ [']', ':']), by simp⟩
    rw [if_pos colon, trim_eq_self _ (isBlank_getLast_of_toDigits ends)]
    · exact .bracketedPort _ closed
    · rintro first ⟨⟩
      decide
  · have plain := readable.resolve_left colon
    have ends : Nat.toDigits 10 address.port.toNat <:+
        address.host.toList ++ ':' :: Nat.toDigits 10 address.port.toNat :=
      ⟨address.host.toList ++ [':'], by simp⟩
    have digits : ':' ∉ Nat.toDigits 10 address.port.toNat := fun member =>
      absurd (Nat.isDigit_of_mem_toDigits (by decide) (by decide) member) (by decide)
    obtain ⟨first, begins⟩ := Option.isSome_iff_exists.1 (List.isSome_head?.2 known.present)
    have begun := plain.begins first begins
    rw [if_neg colon, trim_eq_self _ (isBlank_getLast_of_toDigits ends)]
    · exact .plainPort _ colon (fun bracket => begun.1 (Option.some.inj (begins.symm.trans bracket)))
        digits
    · intro other found
      rw [List.head?_append, begins] at found
      exact Option.some.inj found ▸ begun.2

/-- Only hosts that were written in brackets can be unreadable. -/
theorem IsRead.isReadable_or {text : List Char} {address : ServerAddress}
    (known : IsRead text address) :
    address.IsReadable ∨ ']' ∉ address.host.toList ∧ (trim text).head? = some '[' :=
  known.isPlain_or.imp .inr fun bracketed => ⟨bracketed.1, bracketed.2.1⟩

theorem of_self {text : List Char} {address : ServerAddress} (known : IsRead text address) :
    of address.host.toList address.port = address := by
  rw [of, known.small, String.ofList_toList]

theorem parseChars_display_iff {text : List Char} {address : ServerAddress}
    (known : IsRead text address) :
    parseChars address.display.toList = .ok address ↔ address.IsReadable := by
  constructor
  · intro read
    by_cases colon : ':' ∈ address.host.toList
    · exact .inl colon
    · -- Without a colon no bracket is written that could be closed, so what was read is plain.
      rcases known.isPlain_or with plain | ⟨closed, -⟩
      · exact .inr plain
      · refine .inr ((isRead_of_parseChars read).isPlain_or.resolve_right fun bracketed => ?_)
        have member := mem_of_mem_trim bracketed.2.2
        rw [toList_display, if_neg colon, List.mem_append, List.mem_cons] at member
        rcases member with inside | mark | digit
        · exact closed inside
        · exact absurd mark (by decide)
        · exact absurd (Nat.isDigit_of_mem_toDigits (by decide) (by decide) digit) (by decide)
  · intro readable
    exact parseChars_eq_ok_iff.2 ⟨_, _, _, known.writes_display readable, known.present,
      portOf_toDigits known.positive, (of_self known).symm⟩

theorem parse_eq_ok_iff {text : String} {address : ServerAddress} :
    parse text = .ok address ↔ parseChars text.toList = .ok address := by
  rw [parse]
  cases parseChars text.toList with
  | error fault => exact ⟨fun read => (by cases read), fun read => (by cases read)⟩
  | ok found =>
    exact ⟨fun read => congrArg _ (Except.ok.inj read), fun read => congrArg _ (Except.ok.inj read)⟩

/-- All texts that differ from one which is read as an address in the case of letters and in the blanks
around them only are read as the same address. The written form of the address is read as the address
if it is readable and not otherwise, and only a text that begins with a bracket can be read as an
address that is not. -/
theorem spellings_share_address (text : String) (address : ServerAddress)
    (read : parse text = .ok address) :
    (parse address.display = .ok address ↔ address.IsReadable) ∧
      (¬address.IsReadable → (trim text.toList).head? = some '[') ∧
      ∀ other : String, AreAlike text.toList other.toList → parse other = .ok address := by
  have chars := parse_eq_ok_iff.1 read
  have known := isRead_of_parseChars chars
  refine ⟨parse_eq_ok_iff.trans (parseChars_display_iff known), fun lost => ?_, fun other alike => ?_⟩
  · exact (known.isReadable_or.resolve_left lost).2
  · exact parse_eq_ok_iff.2 (alike.parseChars_eq ▸ chars)

theorem spellings_share_address_brackets :
    parse "[FE80::1]" = .ok ⟨"fe80::1", 27017⟩ ∧
      parse (ServerAddress.mk "fe80::1" 27017).display = .ok ⟨"fe80::1", 27017⟩ ∧
      parse "\t[Fe80::1] " = .ok ⟨"fe80::1", 27017⟩ := by
  have read : parse "[FE80::1]" = .ok ⟨"fe80::1", 27017⟩ := parse_eq_ok_iff.2 (by decide +kernel)
  obtain ⟨readable, -, alike⟩ := spellings_share_address "[FE80::1]" ⟨"fe80::1", 27017⟩ read
  refine ⟨read, readable.2 (.inl (by decide +kernel)), alike _ ?_⟩
  exact ⟨[], "[FE80::1]".toList, [], ['\t'], "[Fe80::1]".toList, [' '], by decide +kernel,
    by decide +kernel, by decide +kernel, List.all_eq_true.1 (by decide +kernel)⟩

/-- A second bracket, or a blank behind the bracket, is taken into the host, but then written without
brackets: one written form is not read at all, the other is read as another address. -/
theorem bracketed_bracket_is_lost :
    (parse "[[left]" = .ok ⟨"[left", 27017⟩ ∧
      ∀ address, parse (ServerAddress.mk "[left" 27017).display ≠ .ok address) ∧
    (parse "[ left]" = .ok ⟨" left", 27017⟩ ∧
      parse (ServerAddress.mk " left" 27017).display = .ok ⟨"left", 27017⟩) := by
  refine ⟨⟨parse_eq_ok_iff.2 (by decide +kernel), fun address read => ?_⟩,
    parse_eq_ok_iff.2 (by decide +kernel), parse_eq_ok_iff.2 (by decide +kernel)⟩
  have lost : parseChars (ServerAddress.mk "[left" 27017).display.toList = .error .unterminated := by
    decide +kernel
  exact absurd (lost.symm.trans (parse_eq_ok_iff.1 read)) (by simp)

end ServerAddress

end DocumentDriver
