import Mathlib.Algebra.Group.Nat.Defs
import GuestInit.Text.Utf8

/-! What is decoded is an encoding. A character of more than one byte is a first byte, which says
how many are owed, and then six bits of its value in each byte. The scan puts the same bits
together, and the ranges it keeps to are just those in which the bytes of an encoding lie. Main
statement: `decode?_eq_some_iff`. -/

namespace GuestInit.Utf8

/-- The last bytes of an encoding, with six bits of the value in each. -/
def tail : (count value : Nat) → Bytes
  | 0, _ => []
  | count + 1, value => UInt8.ofNat (value / 64 ^ count % 64 + 0x80) :: tail count value

/-- A value begins with the bits read so far, and its next byte is in range. -/
structure Opened.Begins (opened : Opened) (value : Nat) : Prop where
  high : value / 64 ^ (opened.owed + 1) = opened.value
  least : opened.low.toNat ≤ value / 64 ^ opened.owed % 64 + 0x80
  most : value / 64 ^ opened.owed % 64 + 0x80 ≤ opened.high.toNat

theorem toNat_continuation (n : Nat) : (UInt8.ofNat (n % 64 + 0x80)).toNat = n % 64 + 0x80 := by
  rw [UInt8.toNat_ofNat']
  omega

theorem div_pow_succ (value count : Nat) :
    value / 64 ^ (count + 1) * 64 + value / 64 ^ count % 64 = value / 64 ^ count := by
  rw [Nat.pow_succ, ← Nat.div_div_eq_div_mul]
  omega

/-- The state after one more byte of a character. -/
def Opened.next (value owed : Nat) : Opened := ⟨value, owed, 0x80, 0xBF⟩

theorem begins_next (value owed : Nat) :
    (Opened.next (value / 64 ^ (owed + 1)) owed).Begins value where
  high := rfl
  least := Nat.le_add_left ..
  most := by
    show _ ≤ 0xBF
    omega

theorem step_continuation {opened : Opened} {value : Nat} (h : opened.Begins value) :
    step (some opened) (UInt8.ofNat (value / 64 ^ opened.owed % 64 + 0x80)) =
      match opened.owed with
      | 0 => ([some (Char.ofNat value)], none)
      | owed + 1 => ([], some (.next (value / 64 ^ (owed + 1)) owed)) := by
  have hbyte := toNat_continuation (value / 64 ^ opened.owed)
  have hrange : opened.low ≤ UInt8.ofNat (value / 64 ^ opened.owed % 64 + 0x80) ∧
      UInt8.ofNat (value / 64 ^ opened.owed % 64 + 0x80) ≤ opened.high := by
    simp only [UInt8.le_iff_toNat_le, hbyte]
    exact ⟨h.least, h.most⟩
  have hvalue : opened.value * 64 +
      ((UInt8.ofNat (value / 64 ^ opened.owed % 64 + 0x80)).toNat - 0x80) =
        value / 64 ^ opened.owed := by
    rw [hbyte, Nat.add_sub_cancel, ← h.high, div_pow_succ]
  unfold step
  dsimp only
  rw [if_pos hrange, hvalue]
  cases opened.owed with
  | zero => simp
  | succ owed => rfl

/-- The bits of a value are put together again. -/
theorem scanFrom_tail {opened : Opened} {value : Nat} (h : opened.Begins value) (rest : Bytes) :
    scanFrom (some opened) (tail (opened.owed + 1) value ++ rest) =
      some (Char.ofNat value) :: scanFrom none rest := by
  obtain ⟨bits, owed, low, high⟩ := opened
  induction owed generalizing bits low high with
  | zero =>
    rw [tail, List.cons_append, scanFrom, step_continuation h]
    rfl
  | succ owed ih =>
    rw [tail, List.cons_append, scanFrom, step_continuation h]
    exact ih _ _ _ (begins_next value owed)

/-- Only bytes that continue a character are in range. -/
structure Opened.Proper (opened : Opened) : Prop where
  low : 0x80 ≤ opened.low.toNat
  high : opened.high.toNat ≤ 0xBF

/-- Where a character under way leaves no piece of none, its next byte has six more bits. -/
theorem next_of_scanFrom {opened : Opened} (hproper : opened.Proper) {bytes : Bytes}
    (h : none ∉ scanFrom (some opened) bytes) :
    ∃ bits rest, bytes = UInt8.ofNat (bits + 0x80) :: rest ∧ bits < 64 ∧
      opened.low.toNat ≤ bits + 0x80 ∧ bits + 0x80 ≤ opened.high.toNat ∧
      ∀ owed, opened.owed = owed + 1 →
        none ∉ scanFrom (some (.next (opened.value * 64 + bits) owed)) rest := by
  cases bytes with
  | nil => simp [scanFrom] at h
  | cons byte rest =>
    have hrange : opened.low ≤ byte ∧ byte ≤ opened.high := Decidable.byContradiction fun hout => by
      simp [scanFrom, step, hout] at h
    obtain ⟨hlow, hhigh⟩ := hrange
    have hleast : 0x80 ≤ byte.toNat := Nat.le_trans hproper.low hlow
    have hmost : byte.toNat ≤ 0xBF := Nat.le_trans hhigh hproper.high
    have hbyte : byte.toNat - 0x80 + 0x80 = byte.toNat := Nat.sub_add_cancel hleast
    refine ⟨byte.toNat - 0x80, rest, ?_, by omega, ?_, ?_, fun owed howed => ?_⟩
    · rw [hbyte, UInt8.ofNat_toNat]
    · rwa [hbyte]
    · rwa [hbyte]
    · simpa [scanFrom, step, hlow, hhigh, howed, Opened.next] using h

theorem Opened.next_proper (value owed : Nat) : (Opened.next value owed).Proper :=
  ⟨Nat.le_refl _, Nat.le_refl _⟩

/-- Such a character is completed, by the last bytes of an encoding. -/
theorem begins_of_scanFrom {opened : Opened} (hproper : opened.Proper) {bytes : Bytes}
    (h : none ∉ scanFrom (some opened) bytes) :
    ∃ value rest, opened.Begins value ∧ bytes = tail (opened.owed + 1) value ++ rest := by
  obtain ⟨high, owed, low, most⟩ := opened
  induction owed generalizing high low most bytes with
  | zero =>
    obtain ⟨bits, rest, rfl, hbits, hlow, hmost, -⟩ := next_of_scanFrom hproper h
    have hlast : (high * 64 + bits) % 64 = bits := by omega
    refine ⟨high * 64 + bits, rest, ⟨?_, ?_, ?_⟩, ?_⟩
    · show (high * 64 + bits) / 64 = high
      omega
    · simpa [hlast] using hlow
    · simpa [hlast] using hmost
    · simp [tail, hlast]
  | succ owed ih =>
    obtain ⟨bits, under, rfl, hbits, hlow, hmost, hnext⟩ := next_of_scanFrom hproper h
    obtain ⟨value, rest, hbegins, rfl⟩ := ih _ _ _ (Opened.next_proper _ _) (hnext owed rfl)
    have hvalue : value / 64 ^ (owed + 1) = high * 64 + bits := hbegins.high
    have hnow : value / 64 ^ (owed + 1) % 64 = bits := by omega
    refine ⟨value, rest, ⟨?_, ?_, ?_⟩, ?_⟩
    · have hpast := div_pow_succ value (owed + 1)
      show value / 64 ^ (owed + 1 + 1) = high
      omega
    · simpa [hnow] using hlow
    · simpa [hnow] using hmost
    · have htail : tail (owed + 2) value = UInt8.ofNat (bits + 0x80) :: tail (owed + 1) value := by
        rw [tail, hnow]
      exact (congrArg (· ++ rest) htail).symm

/-- The first bytes of characters of two, three and four bytes. Where a first byte has only zeros of
the value, the next one has to have more; and the next one after 0xED and 0xF4 may not have too
many. -/
inductive Opens (byte : Nat) : Opened → Prop
  | two (least : 0xC2 ≤ byte) (most : byte < 0xE0) : Opens byte ⟨byte - 0xC0, 0, 0x80, 0xBF⟩
  | three (least : 0xE0 ≤ byte) (most : byte < 0xF0) : Opens byte
      ⟨byte - 0xE0, 1, if byte = 0xE0 then 0xA0 else 0x80, if byte = 0xED then 0x9F else 0xBF⟩
  | four (least : 0xF0 ≤ byte) (most : byte < 0xF5) : Opens byte
      ⟨byte - 0xF0, 2, if byte = 0xF0 then 0x90 else 0x80, if byte = 0xF4 then 0x8F else 0xBF⟩

/-- The first byte of a character, by its value. -/
theorem lead_toNat (byte : UInt8) : lead byte =
    if byte.toNat < 0x80 then .whole (Char.ofNat byte.toNat)
    else if byte.toNat < 0xC2 then .invalid
    else if byte.toNat < 0xE0 then .opens ⟨byte.toNat - 0xC0, 0, 0x80, 0xBF⟩
    else if byte.toNat < 0xF0 then .opens ⟨byte.toNat - 0xE0, 1,
      if byte.toNat = 0xE0 then 0xA0 else 0x80, if byte.toNat = 0xED then 0x9F else 0xBF⟩
    else if byte.toNat < 0xF5 then .opens ⟨byte.toNat - 0xF0, 2,
      if byte.toNat = 0xF0 then 0x90 else 0x80, if byte.toNat = 0xF4 then 0x8F else 0xBF⟩
    else .invalid := by
  unfold lead
  simp only [UInt8.lt_iff_toNat_lt, ← UInt8.toNat_inj, UInt8.reduceToNat]
  grind

theorem lead_opens_iff {byte : UInt8} {opened : Opened} :
    lead byte = .opens opened ↔ Opens byte.toNat opened := by
  constructor
  · intro h
    rw [lead_toNat] at h
    split at h
    · cases h
    split at h
    · cases h
    split at h
    · exact Lead.opens.inj h ▸ .two (by omega) (by omega)
    split at h
    · exact Lead.opens.inj h ▸ .three (by omega) (by omega)
    split at h
    · exact Lead.opens.inj h ▸ .four (by omega) (by omega)
    · cases h
  · intro h
    rw [lead_toNat]
    cases h with
    | two least most => rw [if_neg (by omega), if_neg (by omega), if_pos most]
    | three least most =>
      rw [if_neg (by omega), if_neg (by omega), if_neg (by omega), if_pos most]
    | four least most =>
      rw [if_neg (by omega), if_neg (by omega), if_neg (by omega), if_neg (by omega), if_pos most]

theorem lead_whole {byte : UInt8} {char : Char} (h : lead byte = .whole char) :
    byte.toNat < 0x80 ∧ char = Char.ofNat byte.toNat := by
  rw [lead_toNat] at h
  repeat' split at h
  all_goals simp only [Lead.whole.injEq, reduceCtorEq] at h
  exact ⟨by assumption, h.symm⟩

theorem Opens.proper {byte : Nat} {opened : Opened} (h : Opens byte opened) : opened.Proper := by
  cases h with
  | two => exact ⟨Nat.le_refl _, Nat.le_refl _⟩
  | three => constructor <;> dsimp only <;> split <;> decide
  | four => constructor <;> dsimp only <;> split <;> decide

/-- The bytes of a character by its value: one of its own, or a first byte with the highest bits. -/
theorem encode_eq (char : Char) : String.utf8EncodeChar char =
    if char.toNat < 0x80 then [UInt8.ofNat char.toNat]
    else if char.toNat < 0x800 then
      UInt8.ofNat (char.toNat / 64 % 32 + 0xC0) :: tail 1 char.toNat
    else if char.toNat < 0x10000 then
      UInt8.ofNat (char.toNat / 4096 % 16 + 0xE0) :: tail 2 char.toNat
    else UInt8.ofNat (char.toNat / 262144 % 8 + 0xF0) :: tail 3 char.toNat := by
  simp only [tail, Nat.pow_zero, Nat.div_one, Nat.pow_one, Nat.reducePow]
  simp only [← Nat.lt_succ_iff, Nat.succ_eq_add_one, Nat.reduceAdd, String.utf8EncodeChar]
  rfl

theorem exists_char {value : Nat} (h : value.isValidChar) : ∃ char : Char, char.toNat = value :=
  ⟨Char.ofNatAux value h, rfl⟩

theorem ofNat_of_toNat {byte : UInt8} {n : Nat} (h : byte.toNat = n) : UInt8.ofNat n = byte := by
  rw [← h, UInt8.ofNat_toNat]

/-- A first byte, and bytes as it owes them, are the encoding of a character. -/
theorem encode_of_begins {byte : UInt8} {opened : Opened} (h : Opens byte.toNat opened)
    {value : Nat} (hbegins : opened.Begins value) :
    ∃ char, String.utf8EncodeChar char = byte :: tail (opened.owed + 1) value := by
  obtain ⟨hhigh, hleast, hmost⟩ := hbegins
  cases h with
  | two least most =>
    simp only [UInt8.reduceToNat, Nat.reduceAdd, Nat.reducePow] at hhigh hleast hmost
    obtain ⟨char, rfl⟩ := exists_char (.inl (by omega) : value.isValidChar)
    have hbyte : UInt8.ofNat (char.toNat / 64 % 32 + 0xC0) = byte := ofNat_of_toNat (by omega)
    exact ⟨char, by rw [encode_eq, if_neg (by omega), if_pos (by omega), hbyte]⟩
  | three least most =>
    simp only [apply_ite UInt8.toNat, UInt8.reduceToNat, Nat.reduceAdd, Nat.reducePow]
      at hhigh hleast hmost
    have hlarge : 0x800 ≤ value := by split at hleast <;> omega
    have hvalid : value.isValidChar := by
      unfold Nat.isValidChar
      split at hmost <;> omega
    obtain ⟨char, rfl⟩ := exists_char hvalid
    have hbyte : UInt8.ofNat (char.toNat / 4096 % 16 + 0xE0) = byte := ofNat_of_toNat (by omega)
    refine ⟨char, ?_⟩
    rw [encode_eq, if_neg (by omega), if_neg (by omega), if_pos (by omega), hbyte]
  | four least most =>
    simp only [apply_ite UInt8.toNat, UInt8.reduceToNat, Nat.reduceAdd, Nat.reducePow]
      at hhigh hleast hmost
    have hlarge : 0x10000 ≤ value := by split at hleast <;> omega
    have hvalid : value.isValidChar := by
      refine .inr ⟨by omega, ?_⟩
      split at hmost <;> omega
    obtain ⟨char, rfl⟩ := exists_char hvalid
    have hbyte : UInt8.ofNat (char.toNat / 262144 % 8 + 0xF0) = byte := ofNat_of_toNat (by omega)
    refine ⟨char, ?_⟩
    rw [encode_eq, if_neg (by omega), if_neg (by omega), if_neg (by omega), hbyte]

theorem encode_of_whole {byte : UInt8} {char : Char} (h : lead byte = .whole char) :
    String.utf8EncodeChar char = [byte] := by
  obtain ⟨hbyte, rfl⟩ := lead_whole h
  have hvalid : byte.toNat.isValidChar := .inl (by omega)
  have hvalue : (Char.ofNat byte.toNat).toNat = byte.toNat := by
    rw [Char.ofNat, dif_pos hvalid]
    rfl
  rw [encode_eq, hvalue, if_pos hbyte, UInt8.ofNat_toNat]

/-- An encoding is one byte, or a first byte and bytes as it owes them. -/
theorem encode_cases (char : Char) :
    (∃ byte, String.utf8EncodeChar char = [byte] ∧ lead byte = .whole char) ∨
      ∃ byte opened, String.utf8EncodeChar char = byte :: tail (opened.owed + 1) char.toNat ∧
        Opens byte.toNat opened ∧ opened.Begins char.toNat := by
  have hvalid : char.toNat < 0xD800 ∨ 0xDFFF < char.toNat ∧ char.toNat < 0x110000 := char.valid
  rw [encode_eq]
  split
  · rename_i hone
    have hbyte : (UInt8.ofNat char.toNat).toNat = char.toNat := by
      rw [UInt8.toNat_ofNat']
      omega
    refine .inl ⟨_, rfl, ?_⟩
    rw [lead_toNat, hbyte, if_pos hone, Char.ofNat_toNat]
  split
  · have hbyte : (UInt8.ofNat (char.toNat / 64 % 32 + 0xC0)).toNat = char.toNat / 64 + 0xC0 := by
      rw [UInt8.toNat_ofNat']
      omega
    have hopens := @Opens.two (char.toNat / 64 + 0xC0) (by omega) (by omega)
    rw [Nat.add_sub_cancel] at hopens
    refine .inr ⟨_, _, rfl, hbyte ▸ hopens, rfl, ?_, ?_⟩
    all_goals simp only [UInt8.reduceToNat]
    all_goals omega
  split
  · have hbyte : (UInt8.ofNat (char.toNat / 4096 % 16 + 0xE0)).toNat =
        char.toNat / 4096 + 0xE0 := by
      rw [UInt8.toNat_ofNat']
      omega
    have hopens := @Opens.three (char.toNat / 4096 + 0xE0) (by omega) (by omega)
    rw [Nat.add_sub_cancel] at hopens
    refine .inr ⟨_, _, rfl, hbyte ▸ hopens, rfl, ?_, ?_⟩
    all_goals simp only [apply_ite UInt8.toNat, UInt8.reduceToNat, Nat.pow_one]
    all_goals split <;> omega
  · have hbyte : (UInt8.ofNat (char.toNat / 262144 % 8 + 0xF0)).toNat =
        char.toNat / 262144 + 0xF0 := by
      rw [UInt8.toNat_ofNat']
      omega
    have hopens := @Opens.four (char.toNat / 262144 + 0xF0) (by omega) (by omega)
    rw [Nat.add_sub_cancel] at hopens
    refine .inr ⟨_, _, rfl, hbyte ▸ hopens, rfl, ?_, ?_⟩
    all_goals simp only [apply_ite UInt8.toNat, UInt8.reduceToNat, Nat.reducePow]
    all_goals split <;> omega

section

variable {byte : UInt8} (rest : Bytes)

theorem scan_whole {char : Char} (h : lead byte = .whole char) :
    scan (byte :: rest) = some char :: scan rest := by
  simp [scan, scanFrom, step, start, h]

theorem scan_opens {opened : Opened} (h : lead byte = .opens opened) :
    scan (byte :: rest) = scanFrom (some opened) rest := by
  simp [scan, scanFrom, step, start, h]

theorem scan_invalid (h : lead byte = .invalid) : scan (byte :: rest) = none :: scan rest := by
  simp [scan, scanFrom, step, start, h]

end

theorem scan_encode (char : Char) (rest : Bytes) :
    scan (String.utf8EncodeChar char ++ rest) = some char :: scan rest := by
  rcases encode_cases char with ⟨byte, hencode, hlead⟩ | ⟨byte, opened, hencode, hopens, hbegins⟩
  · rw [hencode, List.singleton_append, scan_whole rest hlead]
  · rw [hencode, List.cons_append, scan_opens _ (lead_opens_iff.mpr hopens),
      scanFrom_tail hbegins rest, Char.ofNat_toNat, scan]

theorem scan_ofString (text : String) : scan (Bytes.ofString text) = text.toList.map some := by
  unfold Bytes.ofString
  induction text.toList with
  | nil => rfl
  | cons char chars ih => rw [List.flatMap_cons, scan_encode, ih, List.map_cons]

/-- Bytes without a piece of no character are encodings, one after the other. -/
theorem encoded_of_scan {bytes : Bytes} (h : none ∉ scan bytes) :
    ∃ chars : List Char, bytes = chars.flatMap String.utf8EncodeChar := by
  induction hlength : bytes.length using Nat.strongRecOn generalizing bytes with
  | ind length ih =>
    cases bytes with
    | nil => exact ⟨[], rfl⟩
    | cons byte rest =>
      cases hlead : lead byte with
      | whole char =>
        rw [scan_whole rest hlead] at h
        obtain ⟨chars, rfl⟩ := ih rest.length (by simp [← hlength]) (by simpa using h) rfl
        exact ⟨char :: chars, by rw [List.flatMap_cons, encode_of_whole hlead]; rfl⟩
      | opens opened =>
        have hopens := lead_opens_iff.mp hlead
        have hunder : none ∉ scanFrom (some opened) rest := scan_opens rest hlead ▸ h
        obtain ⟨value, after, hbegins, rfl⟩ := begins_of_scanFrom hopens.proper hunder
        obtain ⟨char, hchar⟩ := encode_of_begins hopens hbegins
        have hscan : byte :: (tail (opened.owed + 1) value ++ after) =
            String.utf8EncodeChar char ++ after := by rw [hchar, List.cons_append]
        have hafter : none ∉ scan after := by
          rw [hscan, scan_encode] at h
          simpa using h
        have hshorter : after.length < length := by
          rw [← hlength, List.length_cons, List.length_append]
          omega
        obtain ⟨chars, rfl⟩ := ih after.length hshorter hafter rfl
        exact ⟨char :: chars, hscan⟩
      | invalid =>
        rw [scan_invalid rest hlead] at h
        exact absurd List.mem_cons_self h

theorem mapM_id_eq_some_iff {α : Type} {pieces : List (Option α)} {values : List α} :
    pieces.mapM id = some values ↔ pieces = values.map some := by
  induction pieces generalizing values with
  | nil => cases values <;> simp
  | cons piece pieces ih =>
    cases piece with
    | none => cases values <;> simp
    | some value =>
      cases values with
      | nil => simp [Option.bind_eq_some_iff]
      | cons first values => simpa [Option.bind_eq_some_iff, ih] using and_comm

/-- Just those bytes are text that encode one, and they are decoded to it. -/
theorem decode?_eq_some_iff {bytes : Bytes} {text : String} :
    decode? bytes = some text ↔ bytes = Bytes.ofString text := by
  constructor
  · intro h
    obtain ⟨chars, hscan, rfl⟩ := Option.map_eq_some_iff.mp h
    have hscan := mapM_id_eq_some_iff.mp hscan
    obtain ⟨encoded, rfl⟩ := @encoded_of_scan bytes (by simp [hscan])
    have hencoded := scan_ofString (String.ofList encoded)
    rw [Bytes.ofString, String.toList_ofList, hscan] at hencoded
    rw [List.map_inj_right (fun _ _ => Option.some.inj)] at hencoded
    rw [hencoded, Bytes.ofString, String.toList_ofList]
  · rintro rfl
    rw [decode?, scan_ofString, mapM_id_eq_some_iff.mpr rfl, Option.map_some, String.ofList_toList]

theorem mem_tail {byte : UInt8} {count value : Nat} (h : byte ∈ tail count value) :
    0x80 ≤ byte.toNat := by
  induction count with
  | zero => cases h
  | succ count ih =>
    rcases List.mem_cons.mp h with rfl | hrest
    · rw [toNat_continuation]
      omega
    · exact ih hrest

/-- A byte below 0x80 stands for itself only, wherever it stands. -/
theorem mem_of_mem_ofString {byte : UInt8} {text : String} (hbyte : byte.toNat < 0x80)
    (h : byte ∈ Bytes.ofString text) : Char.ofNat byte.toNat ∈ text.toList := by
  obtain ⟨char, hchar, hmem⟩ := List.mem_flatMap.mp h
  rcases encode_cases char with ⟨only, hencode, hlead⟩ | ⟨first, opened, hencode, hopens, -⟩
  · rw [hencode] at hmem
    obtain rfl := List.mem_singleton.mp hmem
    rwa [← (lead_whole hlead).2]
  · rw [hencode] at hmem
    rcases List.mem_cons.mp hmem with rfl | htail
    · cases hopens <;> omega
    · exact absurd (mem_tail htail) (by omega)

theorem ofString_append (first second : String) :
    Bytes.ofString (first ++ second) = Bytes.ofString first ++ Bytes.ofString second := by
  simp [Bytes.ofString]

theorem length_ofString (text : String) : (Bytes.ofString text).length = text.utf8ByteSize := by
  rw [← String.size_toByteArray, ← String.utf8Encode_toList, List.utf8Encode,
    List.size_toByteArray, Bytes.ofString]

end GuestInit.Utf8
