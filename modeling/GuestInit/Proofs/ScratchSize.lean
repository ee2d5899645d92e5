import Mathlib.Data.List.DropRight
import GuestInit.Boot
import GuestInit.Proofs.Decoding
import GuestInit.Proofs.KernelTrace

/-! The size of the scratch filesystem, from the environment to the kernel. Only digits and a unit
get through, so that what stands among the mount options as the size cannot end there and begin
another option. Main statement: `Config.ofVariable_mounts`. -/

namespace GuestInit

open Kernel Program

namespace DiskSize

/-- One or more digits, and after them at most one unit. -/
inductive Written : List Char → Prop
  | intro {digits : List Char} {unit : Option Char} (hsome : digits ≠ [])
      (hdigits : ∀ c ∈ digits, '0' ≤ c ∧ c ≤ '9') (hunit : ∀ c ∈ unit, c ∈ "%kKmMgGtTpPeE".toList) :
      Written (digits ++ unit.toList)

theorem isUnit_iff {c : Char} : isUnit c = true ↔ c ∈ "%kKmMgGtTpPeE".toList :=
  List.contains_iff_mem

theorem isDigit_iff {c : Char} : isDigit c = true ↔ '0' ≤ c ∧ c ≤ '9' := by simp [isDigit]

theorem not_isUnit_of_isDigit {c : Char} (h : isDigit c = true) : ¬ isUnit c = true := by
  have hunits : ∀ unit ∈ "%kKmMgGtTpPeE".toList, isDigit unit = false := by simp [isDigit]
  intro hunit
  rw [hunits c (isUnit_iff.mp hunit)] at h
  cases h

theorem stem_eq_rdropWhile (text : List Char) : stem text = text.rdropWhile isUnit := rfl

theorem stem_digits {digits : List Char} (hdigits : ∀ c ∈ digits, isDigit c = true) :
    stem digits = digits := by
  rw [stem_eq_rdropWhile, List.rdropWhile_eq_self_iff]
  exact fun hsome => not_isUnit_of_isDigit (hdigits _ (List.getLast_mem hsome))

/-- Units are cut off from behind, and the digits before them are left. -/
theorem isWellFormed_iff {text : List Char} : isWellFormed text = true ↔ Written text := by
  simp only [isWellFormed, Bool.and_eq_true, Bool.not_eq_true', List.isEmpty_eq_false_iff,
    List.all_eq_true, decide_eq_true_eq]
  constructor
  · rintro ⟨⟨hsome, hdigits⟩, hlength⟩
    have hdigits := fun c hc => isDigit_iff.mp (hdigits c hc)
    have hsplit : stem text ++ text.rtakeWhile isUnit = text := List.rdropWhile_append_rtakeWhile
    have hunits := fun c => @List.mem_rtakeWhile_imp _ isUnit text c
    have hone : (text.rtakeWhile isUnit).length ≤ 1 := by
      have htotal := congrArg List.length hsplit
      rw [List.length_append] at htotal
      omega
    rw [← hsplit]
    match text.rtakeWhile isUnit, hunits, hone with
    | [], _, _ => exact @Written.intro _ none hsome hdigits nofun
    | [unit], hunits, _ =>
      have hunit := isUnit_iff.mp (hunits unit List.mem_cons_self)
      exact @Written.intro _ (some unit) hsome hdigits fun c hc => Option.some.inj hc ▸ hunit
  · intro h
    obtain @⟨digits, unit, hsome, hdigits, hunit⟩ := h
    have hdigits := fun c hc => isDigit_iff.mpr (hdigits c hc)
    have hstem : stem (digits ++ unit.toList) = digits := by
      cases unit with
      | none => rw [Option.toList_none, List.append_nil, stem_digits hdigits]
      | some unit =>
        have hunit := isUnit_iff.mpr (hunit unit rfl)
        rw [stem_eq_rdropWhile, Option.toList_some, List.rdropWhile_concat_pos _ _ _ hunit]
        exact stem_digits hdigits
    rw [hstem]
    refine ⟨⟨hsome, hdigits⟩, ?_⟩
    cases unit <;> simp

/-- What a value of the environment variable is read as. -/
inductive Reads : Option Bytes → Except Fault DiskSize → Prop
  | absent : Reads none (.ok ⟨"50%"⟩)
  | notText {bytes : Bytes} (h : ∀ text, bytes ≠ Bytes.ofString text) :
      Reads (some bytes) (.error (.diskSizeMalformed (Utf8.lossy bytes)))
  | tooLong {text : String} (h : 10 < (Bytes.ofString text).length) :
      Reads (some (Bytes.ofString text))
        (.error (.diskSizeTooLong (Bytes.ofString text).length 10))
  | accepted {text : String} (hlength : (Bytes.ofString text).length ≤ 10)
      (h : Written text.toList) : Reads (some (Bytes.ofString text)) (.ok ⟨text⟩)
  | malformed {text : String} (hlength : (Bytes.ofString text).length ≤ 10)
      (h : ¬ Written text.toList) :
      Reads (some (Bytes.ofString text)) (.error (.diskSizeMalformed text))

theorem ofVariable_ofString (text : String) :
    ofVariable (some (Bytes.ofString text)) = parse (some text) := by
  simp only [ofVariable, Utf8.decode?_eq_some_iff.mpr rfl]

/-- Every value is read as something. -/
theorem reads_total (value : Option Bytes) : ∃ result, Reads value result := by
  cases value with
  | none => exact ⟨_, .absent⟩
  | some bytes =>
    by_cases htext : ∃ text, bytes = Bytes.ofString text
    · obtain ⟨text, rfl⟩ := htext
      by_cases hlength : (Bytes.ofString text).length ≤ 10
      · by_cases hwritten : Written text.toList
        · exact ⟨_, .accepted hlength hwritten⟩
        · exact ⟨_, .malformed hlength hwritten⟩
      · exact ⟨_, .tooLong (Nat.lt_of_not_le hlength)⟩
    · exact ⟨_, .notText fun text h => htext ⟨text, h⟩⟩

theorem ofVariable_of_reads {value : Option Bytes} {result : Except Fault DiskSize}
    (h : Reads value result) : ofVariable value = result := by
  cases h with
  | absent => decide
  | @notText bytes h =>
    have hdecode : Utf8.decode? bytes = none :=
      Option.eq_none_iff_forall_ne_some.mpr fun text hsome =>
        h text (Utf8.decode?_eq_some_iff.mp hsome)
    simp only [ofVariable, hdecode]
  | @tooLong text h =>
    rw [Utf8.length_ofString] at h ⊢
    have hlong : text.utf8ByteSize > longest := h
    rw [ofVariable_ofString, parse, Option.getD_some, if_pos hlong]
    rfl
  | @accepted text hlength h =>
    rw [Utf8.length_ofString] at hlength
    have hfits : ¬ text.utf8ByteSize > longest := Nat.not_lt_of_le hlength
    rw [ofVariable_ofString, parse, Option.getD_some, if_neg hfits,
      if_pos (isWellFormed_iff.mpr h)]
  | @malformed text hlength h =>
    rw [Utf8.length_ofString] at hlength
    have hfits : ¬ text.utf8ByteSize > longest := Nat.not_lt_of_le hlength
    rw [ofVariable_ofString, parse, Option.getD_some, if_neg hfits,
      if_neg (fun hwellFormed => h (isWellFormed_iff.mp hwellFormed))]

theorem ofVariable_eq_iff {value : Option Bytes} {result : Except Fault DiskSize} :
    ofVariable value = result ↔ Reads value result := by
  refine ⟨?_, ofVariable_of_reads⟩
  rintro rfl
  obtain ⟨result, hreads⟩ := reads_total value
  rwa [ofVariable_of_reads hreads]

/-- What is accepted is kept as it is. -/
theorem Reads.bytes_eq {value : Option Bytes} {size : DiskSize} (h : Reads value (.ok size)) :
    Bytes.ofString size.text = value.getD (Bytes.ofString "50%") := by
  cases h <;> rfl

theorem Reads.written {value : Option Bytes} {size : DiskSize} (h : Reads value (.ok size)) :
    Written size.text.toList := by
  cases h with
  | absent => exact isWellFormed_iff.mp (by decide)
  | accepted _ h => exact h

/-- A character that is no digit and no unit does not get through, nor does its byte. -/
theorem Written.notMem_ofString {text : String} (h : Written text.toList) {byte : UInt8}
    (hbyte : byte.toNat < 0x80) (hdigit : isDigit (Char.ofNat byte.toNat) = false)
    (hunit : isUnit (Char.ofNat byte.toNat) = false) : byte ∉ Bytes.ofString text := by
  intro hmem
  have hchar := Utf8.mem_of_mem_ofString hbyte hmem
  generalize text.toList = chars at h hchar
  cases h with
  | @intro digits unit _ hdigits hunits =>
    rcases List.mem_append.mp hchar with hmem | hmem
    · rw [isDigit_iff.mpr (hdigits _ hmem)] at hdigit
      cases hdigit
    · rw [isUnit_iff.mpr (hunits _ (Option.mem_toList.mp hmem))] at hunit
      cases hunit

end DiskSize

namespace Mount

def comma : UInt8 := 0x2C
def equals : UInt8 := 0x3D

/-- An option is a key, and the value after the first equals sign, if there is one. -/
def keyed (option : Bytes) : Bytes × Option Bytes :=
  (option.takeWhile (· ≠ equals), (option.dropWhile (· ≠ equals)).tail?)

/-- The options that mount data stands for, between commas. -/
def options (data : Bytes) : List (Bytes × Option Bytes) := (data.splitOn comma).map keyed

theorem keyed_append {key : Bytes} (hkey : equals ∉ key) (value : Bytes) :
    keyed (key ++ equals :: value) = (key, some value) := by
  have hpast : ∀ byte ∈ key, decide (byte ≠ equals) = true := fun byte hbyte =>
    decide_eq_true fun hequals => hkey (hequals ▸ hbyte)
  unfold keyed
  rw [List.takeWhile_append_of_pos hpast, List.dropWhile_append_of_pos hpast]
  simp

theorem options_append {first : Bytes} (hfirst : comma ∉ first) (rest : Bytes) :
    options (first ++ comma :: rest) = keyed first :: options rest := by
  have hsplit : (first ++ comma :: rest).splitOn comma =
      first.splitOn comma ++ rest.splitOn comma :=
    List.splitOnP_append_cons first rest (beq_self_eq_true comma)
  rw [options, hsplit, List.splitOn_eq_singleton hfirst]
  rfl

theorem options_single {option : Bytes} (h : comma ∉ option) : options option = [keyed option] := by
  rw [options, List.splitOn_eq_singleton h, List.map_singleton]

/-- The scratch filesystem. -/
def scratch (size : DiskSize) : Mount :=
  ⟨Bytes.ofString "none", Bytes.ofString "/tmp", "tmpfs", noDevices ||| noSuid,
    some size.mountOptions⟩

theorem mountOptions_bytes (size : DiskSize) : Bytes.ofString size.mountOptions =
    Bytes.ofString "mode=777,size=" ++ Bytes.ofString size.text :=
  Utf8.ofString_append ..

/-- A size without a comma is all of the last option. -/
theorem options_mountOptions {size : DiskSize} (h : comma ∉ Bytes.ofString size.text) :
    options (Bytes.ofString size.mountOptions) =
      [(Bytes.ofString "mode", some (Bytes.ofString "777")),
       (Bytes.ofString "size", some (Bytes.ofString size.text))] := by
  have hfixed : Bytes.ofString "mode=777,size=" =
      (Bytes.ofString "mode" ++ equals :: Bytes.ofString "777") ++
        comma :: (Bytes.ofString "size" ++ [equals]) := by decide
  have hdata : Bytes.ofString size.mountOptions =
      (Bytes.ofString "mode" ++ equals :: Bytes.ofString "777") ++
        comma :: (Bytes.ofString "size" ++ equals :: Bytes.ofString size.text) := by
    simp [mountOptions_bytes, hfixed]
  have hlast : comma ∉ Bytes.ofString "size" ++ equals :: Bytes.ofString size.text := by
    have hkey : comma ∉ Bytes.ofString "size" := by decide
    have hequals : comma ≠ equals := by decide
    simp [hkey, hequals, h]
  rw [hdata, options_append (by decide), options_single hlast, keyed_append (by decide),
    keyed_append (by decide)]

/-- The mount of the scratch filesystem starts with its call: only the kernel can refuse it. -/
theorem scratch_calls {size : DiskSize} (h : Bytes.nul ∉ Bytes.ofString size.mountOptions)
    {es : List Event} {standing : Standing Surroundings (Except Fault Unit)}
    (htrace : (scratch size).perform.run.Trace es standing) :
    requests es standing = [.call (scratch size).call] := by
  have hstrings : ¬ (scratch size).strings.any Bytes.hasNul = true := by
    have hnone : Bytes.nul ∉ Bytes.ofString "none" := by decide
    have htarget : Bytes.nul ∉ Bytes.ofString "/tmp" := by decide
    have hfstype : Bytes.nul ∉ Bytes.ofString "tmpfs" := by decide
    simp [strings, scratch, hnone, htarget, hfstype, h]
  rw [perform, if_neg hstrings] at htrace
  rcases Attempt.trace_call_bind htrace with ⟨rfl, rfl⟩ | ⟨reply, -, rfl, rfl⟩ |
    ⟨reply, rest, -, rfl, hrest⟩
  · rfl
  · rfl
  · obtain ⟨rfl, rfl⟩ := trace_done_iff.mp hrest
    rfl

end Mount

/-- The size of the scratch filesystem is read from the environment by its grammar, and what is read
goes to the kernel as it is: as one option behind the mode, whatever the value. -/
theorem Config.ofVariable_mounts (value : Option Bytes) :
    (∀ result, (Config.ofVariable value).map Config.diskSize = result ↔
      DiskSize.Reads value result) ∧
    ∀ config, Config.ofVariable value = .ok config →
      let size := value.getD (Bytes.ofString "50%")
      Bytes.ofString config.diskSize.text = size ∧
      ∃ mount ∈ Mount.table config, ∃ data,
        mount.fstype = "tmpfs" ∧ mount.data.map Bytes.ofString = some data ∧
        (∀ other ∈ Mount.table config, other.data ≠ none → other = mount) ∧
        Mount.options data =
          [(Bytes.ofString "mode", some (Bytes.ofString "777")),
           (Bytes.ofString "size", some size)] ∧
        Bytes.nul ∉ data ∧ data.count Mount.comma = 1 ∧
        ∀ es standing, mount.perform.run.Trace es standing →
          requests es standing = [.call (.mount mount.source mount.target
            (Bytes.ofString "tmpfs") mount.flags (some data))] := by
  have hreads : ∀ result, (Config.ofVariable value).map Config.diskSize = result ↔
      DiskSize.Reads value result := by
    intro result
    rw [← DiskSize.ofVariable_eq_iff, Config.ofVariable]
    cases DiskSize.ofVariable value <;> rfl
  refine ⟨hreads, fun config hconfig => ?_⟩
  have hsize : DiskSize.Reads value (.ok config.diskSize) := (hreads _).mp (by rw [hconfig]; rfl)
  intro size
  have hkept : Bytes.ofString config.diskSize.text = size := hsize.bytes_eq
  have hcomma : Mount.comma ∉ Bytes.ofString config.diskSize.text :=
    hsize.written.notMem_ofString (by decide) rfl rfl
  have hnul : Bytes.nul ∉ Bytes.ofString config.diskSize.mountOptions := by
    rw [Mount.mountOptions_bytes, List.mem_append, not_or]
    exact ⟨by decide, hsize.written.notMem_ofString (by decide) rfl rfl⟩
  refine ⟨hkept, Mount.scratch config.diskSize, by simp [Mount.table, Mount.scratch], _, rfl, rfl,
    by simp [Mount.table, Mount.scratch], ?_, hnul, ?_,
    fun es standing htrace => Mount.scratch_calls hnul htrace⟩
  · rw [Mount.options_mountOptions hcomma, hkept]
  · rw [Mount.mountOptions_bytes, List.count_append, List.count_eq_zero_of_not_mem hcomma]
    decide

/-- A size with a unit. -/
theorem Config.ofVariable_mounts_gigabytes :
    ∃ config, Config.ofVariable (some (Bytes.ofString "12G")) = .ok config ∧
      config.diskSize.text = "12G" ∧
      ∃ mount ∈ Mount.table config, ∃ data, mount.data.map Bytes.ofString = some data ∧
        Mount.options data = [(Bytes.ofString "mode", some (Bytes.ofString "777")),
          (Bytes.ofString "size", some (Bytes.ofString "12G"))] := by
  obtain ⟨hreads, hmounts⟩ := Config.ofVariable_mounts (some (Bytes.ofString "12G"))
  have hwritten : DiskSize.Written "12G".toList :=
    @DiskSize.Written.intro ['1', '2'] (some 'G') (by simp) (by simp) (by simp)
  have hsize := (hreads (.ok ⟨"12G"⟩)).mpr (.accepted (by decide) hwritten)
  cases hconfig : Config.ofVariable (some (Bytes.ofString "12G")) with
  | error fault => simp [hconfig, Except.map] at hsize
  | ok config =>
    rw [hconfig] at hsize
    have htext : config.diskSize.text = "12G" := congrArg DiskSize.text (Except.ok.inj hsize)
    obtain ⟨-, mount, hmount, data, -, hdata, -, hoptions, -⟩ := hmounts config hconfig
    exact ⟨config, rfl, htext, mount, hmount, data, hdata, hoptions⟩

end GuestInit
