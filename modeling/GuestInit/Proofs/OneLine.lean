import GuestInit.Console
import GuestInit.ExitStatus
import GuestInit.IoError
import GuestInit.Text.Blank
import GuestInit.Text.Quoted
import GuestInit.Text.Utf8

/-! Texts that stay on one line. What the supervisor puts into its messages is words of its own,
numbers, texts of the kernel, and bytes of the guest decoded as well as they can be: only the last
kind may hold a newline, and only where the bytes do. -/

namespace GuestInit

def OneLine (text : String) : Prop := '\n' ∉ text.toList

instance (text : String) : Decidable (OneLine text) := inferInstanceAs (Decidable (_ ∉ _))

namespace OneLine

@[simp] theorem append_iff {first second : String} :
    OneLine (first ++ second) ↔ OneLine first ∧ OneLine second := by
  simp [OneLine, not_or]

@[simp] theorem ofList_iff {chars : List Char} : OneLine (String.ofList chars) ↔ '\n' ∉ chars := by
  simp [OneLine]

@[simp] theorem toString_iff {text : String} : OneLine (toString text) ↔ OneLine text := Iff.rfl

theorem newline_notMem_toDigits {base : Nat} (hbase : 1 < base) (hmost : base ≤ 16) (n : Nat) :
    '\n' ∉ Nat.toDigits base n := by
  have hdigit : ∀ digit < 16, '\n' ≠ Nat.digitChar digit := by decide
  induction n using Nat.strongRecOn with
  | ind n ih =>
    rw [Nat.toDigits_eq_if hbase]
    split
    · rename_i hlt
      exact fun hmem => hdigit n (by omega) (List.mem_singleton.mp hmem)
    · have hlt : n / base < n := Nat.div_lt_self (by omega) hbase
      have hmod : n % base < base := Nat.mod_lt n (by omega)
      simpa [not_or] using And.intro (ih _ hlt) (hdigit (n % base) (by omega))

@[simp] theorem nat (n : Nat) : OneLine n.repr := by
  rw [Nat.repr_eq_ofList_toDigits, ofList_iff]
  exact newline_notMem_toDigits (by decide) (by decide) n

@[simp] theorem int (n : Int) : OneLine n.repr := by
  cases n with
  | ofNat n => exact nat n
  | negSucc n => exact append_iff.mpr ⟨by decide, nat (n + 1)⟩

theorem errno_text (code : Int) : OneLine (Errno.text code) := by
  have hknown : ∀ text ∈ Errno.texts, OneLine text := by
    simp only [Errno.texts, List.forall_mem_cons]
    repeat' apply And.intro
    -- `decide` alone would unfold each text byte by byte
    all_goals first | exact ofList_iff.mpr (by decide) | nofun
  have hunknown : OneLine s!"Unknown error {code}" := append_iff.mpr ⟨by decide, int code⟩
  cases code with
  | negSucc n => exact hunknown
  | ofNat n =>
    unfold Errno.text
    dsimp only
    split
    · exact hunknown
    · exact hunknown
    · rename_i known _ htext
      exact hknown known (List.mem_of_getElem? htext)

@[simp] theorem errno_message (code : Int) : OneLine (IoError.errno code).message := by
  simp +decide [IoError.message, errno_text]

@[simp] theorem status_text (status : ExitStatus) : OneLine status.text := by
  cases status with
  | code value => exact append_iff.mpr ⟨by decide, int value⟩
  | signal number => exact append_iff.mpr ⟨by decide, int number⟩

theorem trim {text : String} (h : OneLine text) : OneLine (Blank.trim text) := by
  intro hmem
  have hfirst := List.mem_reverse.mp (by simpa [Blank.trim] using hmem)
  have hlast := List.mem_reverse.mp ((List.dropWhile_sublist _).mem hfirst)
  exact h ((List.dropWhile_sublist _).mem hlast)

/-- A text between quotes has no newline, whatever it had before. -/
theorem encode (text : String) : OneLine (Quoted.encode text) := by
  have hescape (c : Char) : '\n' ∉ Quoted.escape c := by
    by_cases hc : c = '\n'
    · subst hc
      decide
    · have hcode : '\n' ∉ Quoted.codePoint c := by
        simp [Quoted.codePoint, Quoted.hexDigits, newline_notMem_toDigits]
      unfold Quoted.escape
      split
      case h_7 => split <;> simp [hcode, Ne.symm hc]
      all_goals decide
  refine ofList_iff.mpr ?_
  simp [hescape]

end OneLine

namespace Utf8

/-- Whatever bytes may follow, the value of the character is above those of one byte. -/
def Opened.Large (opened : Opened) : Prop :=
  0x80 ≤ (opened.value * 64 + (opened.low.toNat - 0x80)) * Nat.pow 64 opened.owed

theorem eq_newline_of_ofNat {n : Nat} (h : Char.ofNat n = '\n') : n = 10 := by
  by_cases hvalid : n.isValidChar
  · have hchar : Char.ofNat n = Char.ofNatAux n hvalid := dif_pos hvalid
    calc
      n = (Char.ofNatAux n hvalid).toNat := rfl
      _ = '\n'.toNat := by rw [← hchar, h]
      _ = 10 := rfl
  · have hzero : Char.ofNat n = '\x00' := by simp [Char.ofNat, hvalid]; rfl
    exact absurd (hzero.symm.trans h) (by decide)

theorem Opened.Large.grown {opened : Opened} (h : opened.Large) {byte : UInt8}
    (hlow : opened.low ≤ byte) :
    0x80 ≤ (opened.value * 64 + (byte.toNat - 0x80)) * Nat.pow 64 opened.owed := by
  have hle : opened.low.toNat ≤ byte.toNat := hlow
  exact Nat.le_trans h (Nat.mul_le_mul_right _ (by omega))

theorem lead_newline {byte : UInt8} (h : lead byte = .whole '\n') : byte = Bytes.newline := by
  unfold lead at h
  dsimp only at h
  repeat' split at h
  all_goals try cases h
  have := eq_newline_of_ofNat (Lead.whole.inj h)
  exact UInt8.toNat_inj.mp this

theorem lead_large {byte : UInt8} {opened : Opened} (h : lead byte = .opens opened) :
    opened.Large := by
  unfold lead at h
  dsimp only at h
  repeat' split at h
  all_goals simp only [Lead.opens.injEq, reduceCtorEq] at h
  all_goals subst h
  all_goals simp only [UInt8.lt_iff_toNat_lt, ← UInt8.toNat_inj, UInt8.reduceToNat] at *
  all_goals simp [Opened.Large]
  all_goals omega

theorem start_newline (byte : UInt8) :
    (some '\n' ∈ (start byte).1 → byte = Bytes.newline) ∧
      ∀ opened ∈ (start byte).2, opened.Large := by
  unfold start
  split
  · rename_i char hlead
    refine ⟨fun hmem => ?_, nofun⟩
    obtain rfl : '\n' = char := by simpa using hmem
    exact lead_newline hlead
  · rename_i opened hlead
    refine ⟨nofun, fun _ hopened => ?_⟩
    obtain rfl := Option.some.inj hopened
    exact lead_large hlead
  · exact ⟨by simp, nofun⟩

/-- A byte that continues a character makes no newline of it. -/
theorem step_newline {state : Option Opened} (hstate : ∀ opened ∈ state, opened.Large)
    (byte : UInt8) :
    (some '\n' ∈ (step state byte).1 → byte = Bytes.newline) ∧
      ∀ opened ∈ (step state byte).2, opened.Large := by
  cases state with
  | none => exact start_newline byte
  | some opened =>
    have hlarge := hstate opened rfl
    unfold step
    dsimp only
    split
    · rename_i hbyte
      have hgrown := hlarge.grown hbyte.1
      split
      · rename_i howed
        refine ⟨fun hmem => ?_, nofun⟩
        rw [howed, Nat.pow_eq, Nat.pow_zero, Nat.mul_one] at hgrown
        have hvalue := eq_newline_of_ofNat (Option.some.inj (List.mem_singleton.mp hmem)).symm
        omega
      · rename_i owed howed
        refine ⟨nofun, fun _ hopened => ?_⟩
        obtain rfl := Option.some.inj hopened
        rw [howed, Nat.pow_eq, Nat.pow_succ'] at hgrown
        simpa [Opened.Large, Nat.mul_assoc] using hgrown
    · have hstart := start_newline byte
      refine ⟨fun hmem => hstart.1 ?_, hstart.2⟩
      simpa using hmem

theorem scanFrom_newline {state : Option Opened} (hstate : ∀ opened ∈ state, opened.Large)
    {bytes : Bytes} (h : some '\n' ∈ scanFrom state bytes) : Bytes.newline ∈ bytes := by
  induction bytes generalizing state with
  | nil => cases state <;> simp [scanFrom] at h
  | cons byte rest ih =>
    obtain ⟨hpieces, hnext⟩ := step_newline hstate byte
    have hscan : scanFrom state (byte :: rest) =
        (step state byte).1 ++ scanFrom (step state byte).2 rest := by cases state <;> rfl
    rw [hscan] at h
    rcases List.mem_append.mp h with hmem | hmem
    · exact hpieces hmem ▸ List.mem_cons_self
    · exact List.mem_cons_of_mem _ (ih hnext hmem)

end Utf8

theorem OneLine.lossy {bytes : Bytes} (h : Bytes.newline ∉ bytes) : OneLine (Utf8.lossy bytes) := by
  refine OneLine.ofList_iff.mpr fun hmem => ?_
  obtain ⟨piece, hpiece, hchar⟩ := List.mem_map.mp hmem
  cases piece with
  | none => exact absurd hchar (by decide)
  | some char =>
    obtain rfl : char = '\n' := hchar
    exact h (Utf8.scanFrom_newline (by simp) hpiece)

theorem cutAfter_append {α : Type} [DecidableEq α] {separator : α} {piece : List α}
    (h : separator ∉ piece) : cutAfter separator (piece ++ [separator]) = [piece] := by
  induction piece with
  | nil => simp
  | cons a rest ih =>
    obtain ⟨ha, hrest⟩ := List.ne_and_not_mem_of_not_mem_cons h
    simp [cutAfter, Ne.symm ha, ih hrest]

namespace Console

/-- A line that shows where it comes from. -/
def Tagged (line : String) : Prop := ∃ message, line = "init: " ++ message

theorem lines_tagged {message : String} (h : OneLine message) :
    lines (tagged message) = ["init: " ++ message] := by
  have hline : OneLine ("init: " ++ message) := OneLine.append_iff.mpr ⟨by decide, h⟩
  have hchars : (tagged message).toList = ("init: " ++ message).toList ++ ['\n'] := by
    simp [tagged, tag]
  rw [lines, hchars, cutAfter_append hline, List.map_singleton, String.ofList_toList]

theorem recordLines_tagged {record : Record} (h : OneLine record.message) :
    ∀ line ∈ recordLines record, Tagged line := by
  intro line hline
  unfold recordLines at hline
  split at hline
  · rw [lines_tagged h] at hline
    exact ⟨record.message, List.mem_singleton.mp hline⟩
  · cases hline

end Console
end GuestInit
