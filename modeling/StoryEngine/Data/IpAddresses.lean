import StoryEngine.Text.Basic

namespace StoryEngine.Data

/-! # Texts of network addresses

An address is a number, which is written in decimal octets or in hexadecimal groups.  The longest
run of zero groups is left out of a text, and the image of a short address among the long ones has a
text in which the former is written in octets.
-/

abbrev Ipv4Address := Fin (2 ^ 32)

abbrev Ipv6Address := Fin (2 ^ 128)

def octets (address : Nat) : List Nat :=
  [address / 2 ^ 24 % 256, address / 2 ^ 16 % 256, address / 2 ^ 8 % 256, address % 256]

def groups (address : Nat) : List Nat :=
  [address / 2 ^ 112 % 65536, address / 2 ^ 96 % 65536, address / 2 ^ 80 % 65536,
    address / 2 ^ 64 % 65536, address / 2 ^ 48 % 65536, address / 2 ^ 32 % 65536,
    address / 2 ^ 16 % 65536, address % 65536]

def decimalText (number : Nat) : Text := Nat.toDigits 10 number

def hexText (number : Nat) : Text := Nat.toDigits 16 number

def dottedText (address : Nat) : Text := Text.join ['.'] ((octets address).map decimalText)

def zeroRun (groups : List Nat) : Nat := (groups.takeWhile (· == 0)).length

def longestZeroRun : List Nat → Nat × Nat
  | [] => (0, 0)
  | group :: rest =>
    let (start, width) := longestZeroRun rest
    if width ≤ zeroRun (group :: rest) then (0, zeroRun (group :: rest)) else (start + 1, width)

def groupsText (groups : List Nat) : Text :=
  let (start, width) := longestZeroRun groups
  if width < 2 then Text.join [':'] (groups.map hexText)
  else
    Text.join [':'] ((groups.take start).map hexText) ++ [':', ':'] ++
      Text.join [':'] ((groups.drop (start + width)).map hexText)

def Mapped (address : Nat) : Prop := address / 2 ^ 32 = 0xffff

def mappedText (address : Nat) : Text := "::ffff:".toList ++ dottedText (address % 2 ^ 32)

inductive Ipv6Text (address : Ipv6Address) : Text → Prop where
  | hexadecimal : Ipv6Text address (groupsText (groups address))
  | dotted (mapped : Mapped address) : Ipv6Text address (mappedText address)

example : groupsText (groups 0x20010db8000000000001000000000001) =
    "2001:db8::1:0:0:1".toList := by decide +kernel

example : mappedText 0xffff7f000001 = "::ffff:127.0.0.1".toList := by decide +kernel

/-- The addresses, of the given number of bits, that begin like another one. -/
def InBlock (bits : Nat) (address base prefixLength : Nat) : Prop :=
  address / 2 ^ (bits - prefixLength) = base / 2 ^ (bits - prefixLength)

def ofOctets (a b c d : Nat) : Nat := ((a * 256 + b) * 256 + c) * 256 + d

def addressChars : Text := "0123456789abcdef.:".toList

theorem digitChar_mem {digit : Nat} (small : digit < 16) :
    digit.digitChar ∈ "0123456789abcdef".toList := by
  revert digit
  decide

theorem mem_hexText {number : Nat} : ∀ c ∈ hexText number, c ∈ "0123456789abcdef".toList := by
  induction number using Nat.strongRecOn with
  | ind number ih =>
    rw [hexText, Nat.toDigits_eq_if (by decide)]
    split
    · next small =>
        intro c member
        rw [List.mem_singleton.mp member]
        exact digitChar_mem small
    · next large =>
        intro c member
        cases List.mem_append.mp member with
        | inl higher => exact ih (number / 16) (by omega) c higher
        | inr last =>
          rw [List.mem_singleton.mp last]
          exact digitChar_mem (Nat.mod_lt number (by decide))

theorem mem_decimalText {number : Nat} : ∀ c ∈ decimalText number, c.isDigit = true :=
  fun _ member => Nat.isDigit_of_mem_toDigits (by decide) (by decide) member

theorem mem_join {separator : Text} {parts : List Text} {c : Char}
    (member : c ∈ Text.join separator parts) : c ∈ separator ∨ ∃ part ∈ parts, c ∈ part := by
  induction parts with
  | nil => cases member
  | cons part rest ih =>
    cases rest with
    | nil => exact .inr ⟨part, List.mem_cons_self, member⟩
    | cons next others =>
      have split : Text.join separator (part :: next :: others) =
          part ++ separator ++ Text.join separator (next :: others) := rfl
      rw [split] at member
      rcases List.mem_append.mp member with before | later
      · rcases List.mem_append.mp before with inPart | inSeparator
        · exact .inr ⟨part, List.mem_cons_self, inPart⟩
        · exact .inl inSeparator
      · rcases ih later with inSeparator | ⟨other, inRest, inOther⟩
        · exact .inl inSeparator
        · exact .inr ⟨other, List.mem_cons_of_mem part inRest, inOther⟩

theorem mem_dottedText {address : Nat} {c : Char} (member : c ∈ dottedText address) :
    c = '.' ∨ c.isDigit = true := by
  rcases mem_join member with dot | ⟨part, isPart, inPart⟩
  · exact .inl (List.mem_singleton.mp dot)
  · obtain ⟨number, _, rfl⟩ := List.mem_map.mp isPart
    exact .inr (mem_decimalText c inPart)

theorem isDigit_mem {c : Char} (digit : c.isDigit = true) : c ∈ addressChars := by
  simp only [Char.isDigit, Bool.and_eq_true, decide_eq_true_eq] at digit
  have lower : 48 ≤ c.toNat := digit.1
  have upper : c.toNat ≤ 57 := digit.2
  have table : ∀ code < 58, 48 ≤ code → Char.ofNat code ∈ addressChars := by decide
  have here := table c.toNat (by omega) lower
  rwa [Char.ofNat_toNat] at here

theorem hexDigit_mem {c : Char} (digit : c ∈ "0123456789abcdef".toList) : c ∈ addressChars := by
  have table : ("0123456789abcdef".toList.all fun c => decide (c ∈ addressChars)) = true := by decide
  exact of_decide_eq_true (List.all_eq_true.mp table c digit)

theorem mem_groupsText {numbers : List Nat} {c : Char} (member : c ∈ groupsText numbers) :
    c ∈ addressChars := by
  have joined {part : List Nat} (inJoin : c ∈ Text.join [':'] (part.map hexText)) :
      c ∈ addressChars := by
    rcases mem_join inJoin with colon | ⟨text, isText, inText⟩
    · rw [List.mem_singleton.mp colon]
      decide
    · obtain ⟨number, _, rfl⟩ := List.mem_map.mp isText
      exact hexDigit_mem (mem_hexText c inText)
  rw [groupsText] at member
  generalize longestZeroRun numbers = run at member
  obtain ⟨start, width⟩ := run
  dsimp only at member
  split at member
  · exact joined member
  · rcases List.mem_append.mp member with before | after
    · rcases List.mem_append.mp before with inStart | colons
      · exact joined inStart
      · have colon : ':' ∈ addressChars := by decide
        simp only [List.mem_cons, List.not_mem_nil, or_false, or_self] at colons
        rwa [colons]
    · exact joined after

theorem Ipv6Text.mem {address : Ipv6Address} {text : Text} (isText : Ipv6Text address text) {c : Char}
    (member : c ∈ text) : c ∈ addressChars := by
  cases isText with
  | hexadecimal => exact mem_groupsText member
  | dotted mapped =>
    rcases List.mem_append.mp member with leading | short
    · have table : ("::ffff:".toList.all fun c => decide (c ∈ addressChars)) = true := by decide
      exact of_decide_eq_true (List.all_eq_true.mp table c leading)
    · rcases mem_dottedText short with rfl | digit
      · decide
      · exact isDigit_mem digit

theorem longestZeroRun_width (numbers : List Nat) :
    zeroRun (numbers.drop (longestZeroRun numbers).1) = (longestZeroRun numbers).2 := by
  induction numbers with
  | nil => rfl
  | cons group rest ih =>
    rw [longestZeroRun]
    dsimp only
    split
    · rfl
    · exact ih

theorem groupsText_begins {first : Nat} {rest : List Nat} (nonzero : first ≠ 0) :
    ∃ later, groupsText (first :: rest) = hexText first ++ later := by
  have joined (others : List Nat) : ∃ later,
      Text.join [':'] ((first :: others).map hexText) = hexText first ++ later := by
    cases others with
    | nil => exact ⟨[], (List.append_nil _).symm⟩
    | cons next others =>
      refine ⟨[':'] ++ Text.join [':'] ((next :: others).map hexText), ?_⟩
      rw [← List.append_assoc]
      rfl
  have width := longestZeroRun_width (first :: rest)
  rw [groupsText]
  generalize longestZeroRun (first :: rest) = run at width
  obtain ⟨start, zeros⟩ := run
  dsimp only at width ⊢
  split
  · exact joined rest
  · next wide =>
      cases start with
      | zero =>
        rw [List.drop_zero, zeroRun, List.takeWhile_cons_of_neg (by simp [nonzero])] at width
        rw [← width] at wide
        exact absurd (by decide) wide
      | succ start =>
        obtain ⟨later, begins⟩ := joined (rest.take start)
        rw [List.take_succ_cons, begins]
        rw [List.append_assoc, List.append_assoc]
        exact ⟨_, rfl⟩

theorem groupsText_mapped (high low : Nat) :
    groupsText [0, 0, 0, 0, 0, 0xffff, high, low] =
      "::ffff:".toList ++ (hexText high ++ ':' :: hexText low) := by
  have ffff : hexText 0xffff = "ffff".toList := by decide
  have run : longestZeroRun [0, 0, 0, 0, 0, 0xffff, high, low] = (0, 5) := by
    by_cases zeroHigh : high = 0
    · by_cases zeroLow : low = 0
      · simp [longestZeroRun, zeroRun, zeroHigh, zeroLow]
      · simp [longestZeroRun, zeroRun, zeroHigh, zeroLow]
    · by_cases zeroLow : low = 0
      · simp [longestZeroRun, zeroRun, zeroHigh, zeroLow]
      · simp [longestZeroRun, zeroRun, zeroHigh, zeroLow]
  rw [groupsText, run]
  simp [Text.join, ffff]

theorem colon_mem_join (first second : Text) (rest : List Text) :
    ':' ∈ Text.join [':'] (first :: second :: rest) := by
  have split : Text.join [':'] (first :: second :: rest) =
      first ++ [':'] ++ Text.join [':'] (second :: rest) := rfl
  rw [split]
  exact List.mem_append_left _ (List.mem_append_right first (List.mem_singleton_self ':'))

theorem Ipv6Text.colon_mem {address : Ipv6Address} {text : Text} (isText : Ipv6Text address text) :
    ':' ∈ text := by
  cases isText with
  | dotted mapped => exact List.mem_append_left _ (by decide)
  | hexadecimal =>
    rw [groupsText]
    generalize longestZeroRun (groups address) = run
    obtain ⟨start, width⟩ := run
    dsimp only
    split
    · exact colon_mem_join _ _ _
    · exact List.mem_append_left _ (List.mem_append_right _ List.mem_cons_self)

theorem colon_notMem_dottedText (address : Nat) : ':' ∉ dottedText address := by
  intro colon
  rcases mem_dottedText colon with dot | digit
  · cases dot
  · cases digit

end StoryEngine.Data
