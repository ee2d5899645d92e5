import GuestInit.Proofs.Rounds

/-! Lines of a script, however its source delivers them. Pieces of any size and interruptions between
them are invisible: what a read gives is decided by the bytes alone. -/

namespace GuestInit

namespace Delivery

def bytes : Delivery → Bytes
  | data bytes => bytes
  | failure _ | ended => []

/-- Bytes, or an interruption, after which the read is repeated. -/
def Steady : Delivery → Prop
  | data _ => True
  | failure cause => cause.isInterruption = true
  | ended => False

end Delivery

namespace Source

/-- A source that delivers just these bytes, and then ends. -/
structure Delivers (source : Source) (bytes : Bytes) : Prop where
  steady : ∀ delivery ∈ source.pending, delivery.Steady
  content : source.pending.flatMap Delivery.bytes = bytes
  beyond : source.beyond = none

theorem delivers_ofBytes (bytes : Bytes) : (ofBytes bytes).Delivers bytes where
  steady := by simp [ofBytes, ofDeliveries, Delivery.Steady]
  content := by simp [ofBytes, ofDeliveries, Delivery.bytes]
  beyond := rfl

section

variable {room : Nat} {bytes piece left : Bytes}

@[simp] theorem cutLine_zero (bytes : Bytes) : cutLine 0 bytes = ([], bytes) := rfl

@[simp] theorem cutLine_nil (room : Nat) : cutLine room [] = ([], []) := by
  cases room with
  | zero => rfl
  | succ room => rfl

@[simp] theorem cutLine_newline (room : Nat) (rest : Bytes) :
    cutLine (room + 1) (Bytes.newline :: rest) = ([Bytes.newline], rest) := by
  simp [cutLine]

theorem cutLine_other {byte : UInt8} (h : byte ≠ Bytes.newline) (room : Nat) (rest : Bytes) :
    cutLine (room + 1) (byte :: rest) =
      (byte :: (cutLine room rest).1, (cutLine room rest).2) := by
  simp [cutLine, h]

/-- Where a cut has been made, it does not matter what follows. -/
theorem cutLine_before (hcut : cutLine room bytes = (piece, left))
    (hmade : left ≠ [] ∨ piece.getLast? = some Bytes.newline) (more : Bytes) :
    cutLine room (bytes ++ more) = (piece, left ++ more) := by
  induction room generalizing bytes piece with
  | zero =>
    obtain ⟨rfl, rfl⟩ := Prod.mk.inj hcut
    rfl
  | succ room ih =>
    cases bytes with
    | nil =>
      obtain ⟨rfl, rfl⟩ := Prod.mk.inj hcut
      simp at hmade
    | cons byte rest =>
      by_cases hbyte : byte = Bytes.newline
      · subst hbyte
        rw [cutLine_newline] at hcut
        obtain ⟨rfl, rfl⟩ := Prod.mk.inj hcut
        rw [List.cons_append, cutLine_newline]
      · rw [cutLine_other hbyte] at hcut
        obtain ⟨rfl, rfl⟩ := Prod.mk.inj hcut
        have hmade' : (cutLine room rest).2 ≠ [] ∨
            (cutLine room rest).1.getLast? = some Bytes.newline := by
          refine hmade.imp_right fun hlast => ?_
          rw [List.getLast?_cons] at hlast
          cases hrest : (cutLine room rest).1.getLast? with
          | none => simp [hrest, hbyte] at hlast
          | some last => simpa [hrest] using hlast
        rw [List.cons_append, cutLine_other hbyte, ih rfl hmade']

/-- Where no cut has been made, it is made in what follows, with the room that is left. -/
theorem cutLine_across (hcut : cutLine room bytes = (piece, []))
    (hopen : piece.getLast? ≠ some Bytes.newline) (more : Bytes) :
    cutLine room (bytes ++ more) =
      (piece ++ (cutLine (room - piece.length) more).1, (cutLine (room - piece.length) more).2) := by
  induction room generalizing bytes piece with
  | zero =>
    obtain ⟨rfl, rfl⟩ := Prod.mk.inj hcut
    rfl
  | succ room ih =>
    cases bytes with
    | nil =>
      obtain ⟨rfl, -⟩ := Prod.mk.inj hcut
      rfl
    | cons byte rest =>
      by_cases hbyte : byte = Bytes.newline
      · subst hbyte
        rw [cutLine_newline] at hcut
        obtain ⟨rfl, rfl⟩ := Prod.mk.inj hcut
        exact absurd rfl hopen
      · rw [cutLine_other hbyte] at hcut
        obtain ⟨rfl, hleft⟩ := Prod.mk.inj hcut
        have hopen' : (cutLine room rest).1.getLast? ≠ some Bytes.newline := by
          intro hlast
          exact hopen (by simp [List.getLast?_cons, hlast])
        rw [List.cons_append, cutLine_other hbyte, ih (Prod.ext rfl hleft) hopen']
        simp

/-- A line that there is room for is cut off with its newline. -/
theorem cutLine_line {line : Bytes} (hline : Bytes.newline ∉ line) (hroom : line.length < room)
    (rest : Bytes) :
    cutLine room (line ++ Bytes.newline :: rest) = (line ++ [Bytes.newline], rest) := by
  induction line generalizing room with
  | nil =>
    obtain ⟨room, rfl⟩ := Nat.exists_eq_add_of_lt hroom
    simp
  | cons byte line ih =>
    obtain ⟨hbyte, hline⟩ := List.ne_and_not_mem_of_not_mem_cons hline
    cases room with
    | zero => simp at hroom
    | succ room =>
      have hroom' : line.length < room := by simpa using hroom
      rw [List.cons_append, cutLine_other (Ne.symm hbyte), ih hline hroom']
      rfl

/-- Bytes without a newline for which there is room are taken as they are. -/
theorem cutLine_last {line : Bytes} (hline : Bytes.newline ∉ line) (hroom : line.length ≤ room) :
    cutLine room line = (line, []) := by
  induction line generalizing room with
  | nil => exact cutLine_nil room
  | cons byte line ih =>
    obtain ⟨hbyte, hline⟩ := List.ne_and_not_mem_of_not_mem_cons hline
    cases room with
    | zero => simp at hroom
    | succ room => rw [cutLine_other (Ne.symm hbyte), ih hline (by simpa using hroom)]

/-- Bytes without a newline that take up all the room are cut off where the room ends. -/
theorem cutLine_full {piece : Bytes} (hpiece : Bytes.newline ∉ piece) (rest : Bytes) :
    cutLine piece.length (piece ++ rest) = (piece, rest) := by
  induction piece with
  | nil => rfl
  | cons byte piece ih =>
    obtain ⟨hbyte, hpiece⟩ := List.ne_and_not_mem_of_not_mem_cons hpiece
    rw [List.length_cons, List.cons_append, cutLine_other (Ne.symm hbyte), ih hpiece]

end

/-- A cut is made behind the first newline. -/
theorem newline_notMem_cutLine (room : Nat) (bytes : Bytes) :
    Bytes.newline ∉ (cutLine room bytes).1.dropLast := by
  fun_induction cutLine room bytes with
  | case1 => simp
  | case2 => simp
  | case3 => simp
  | case4 room byte rest hbyte ih =>
    cases hcut : (cutLine room rest).1 with
    | nil => simp
    | cons next more =>
      rw [hcut] at ih
      rw [List.dropLast_cons_cons]
      exact List.not_mem_cons_of_ne_of_not_mem (Ne.symm hbyte) ih

theorem newline_notMem_of_dropLast {text : Bytes} (h : Bytes.newline ∉ text.dropLast)
    (hlast : text.getLast? ≠ some Bytes.newline) : Bytes.newline ∉ text := by
  rcases List.eq_nil_or_concat text with rfl | ⟨before, last, rfl⟩
  · simp
  · simp only [List.concat_eq_append, List.dropLast_concat, List.getLast?_concat] at h hlast
    simpa [h] using fun heq => hlast (congrArg some heq.symm)

theorem newline_notMem_append_dropLast {sofar piece : Bytes} (hsofar : Bytes.newline ∉ sofar)
    (hpiece : Bytes.newline ∉ piece.dropLast) : Bytes.newline ∉ (sofar ++ piece).dropLast := by
  cases piece with
  | nil => simpa using fun hmem => hsofar ((List.dropLast_sublist _).mem hmem)
  | cons byte rest =>
    rw [List.dropLast_append_of_ne_nil (List.cons_ne_nil byte rest)]
    exact List.not_mem_append hsofar hpiece

/-- What a read gives has a newline at its end only. -/
theorem newline_notMem_readOn {beyond : Option IoError.Lasting} {pending : List Delivery} {room : Nat}
    {sofar text : Bytes} (hsofar : Bytes.newline ∉ sofar)
    (h : (readOn beyond pending room sofar).1 = .ok text) : Bytes.newline ∉ text.dropLast := by
  fun_induction readOn beyond pending room sofar with
  | case1 | case2 | case4 =>
    obtain rfl := Except.ok.inj h
    exact fun hmem => hsofar ((List.dropLast_sublist _).mem hmem)
  | case3 => cases h
  | case5 _ _ _ _ _ _ ih => exact ih hsofar h
  | case6 => cases h
  | case7 bytes rest room sofar _ piece hcut hend =>
    have hpiece := newline_notMem_cutLine room bytes
    rw [hcut] at hpiece
    obtain rfl := Except.ok.inj h
    exact newline_notMem_append_dropLast hsofar hpiece
  | case8 bytes rest room sofar _ piece hcut hend ih =>
    have hpiece := newline_notMem_cutLine room bytes
    rw [hcut] at hpiece
    have hread : Bytes.newline ∉ sofar ++ piece :=
      List.not_mem_append hsofar (newline_notMem_of_dropLast hpiece hend)
    exact ih hread h
  | case9 bytes rest room sofar _ piece left hne hcut =>
    have hpiece := newline_notMem_cutLine room bytes
    rw [hcut] at hpiece
    obtain rfl := Except.ok.inj h
    exact newline_notMem_append_dropLast hsofar hpiece

/-- Reading on takes what a cut of all that is pending gives, and leaves the rest. -/
theorem readOn_steady {pending : List Delivery} (h : ∀ delivery ∈ pending, delivery.Steady)
    (room : Nat) (sofar : Bytes) :
    ∃ left, readOn none pending room sofar =
        (.ok (sofar ++ (cutLine room (pending.flatMap Delivery.bytes)).1), left) ∧
      (∀ delivery ∈ left, delivery.Steady) ∧
      left.flatMap Delivery.bytes = (cutLine room (pending.flatMap Delivery.bytes)).2 := by
  induction pending generalizing room sofar with
  | nil =>
    cases room with
    | zero => exact ⟨[], by simp [readOn]⟩
    | succ room => exact ⟨[], by simp [readOn]⟩
  | cons delivery rest ih =>
    cases room with
    | zero => exact ⟨delivery :: rest, by simp [readOn], h, by simp⟩
    | succ room =>
      obtain ⟨hdelivery, hrest⟩ := List.forall_mem_cons.mp h
      cases delivery with
      | ended => exact hdelivery.elim
      | failure cause =>
        have hcause : cause.isInterruption = true := hdelivery
        obtain ⟨left, hread, hleft⟩ := ih hrest (room + 1) sofar
        exact ⟨left, by simpa [readOn, hcause, Delivery.bytes] using hread, hleft⟩
      | data bytes =>
        rcases hcut : cutLine (room + 1) bytes with ⟨piece, left⟩
        have hcontent : (Delivery.data bytes :: rest).flatMap Delivery.bytes =
            bytes ++ rest.flatMap Delivery.bytes := rfl
        rw [hcontent]
        by_cases hmade : left ≠ [] ∨ piece.getLast? = some Bytes.newline
        · rw [cutLine_before hcut hmade]
          cases left with
          | nil =>
            have hlast := hmade.resolve_left (by simp)
            exact ⟨rest, by simp [readOn, hcut, hlast], hrest, rfl⟩
          | cons byte left =>
            refine ⟨.data (byte :: left) :: rest, by simp [readOn, hcut], ?_, rfl⟩
            exact List.forall_mem_cons.mpr ⟨trivial, hrest⟩
        · obtain ⟨hleft, hopen⟩ := not_or.mp hmade
          obtain rfl : left = [] := Decidable.not_not.mp hleft
          rw [cutLine_across hcut hopen]
          obtain ⟨left, hread, hleft⟩ := ih hrest (room + 1 - piece.length) (sofar ++ piece)
          exact ⟨left, by simp [readOn, hcut, hopen, hread], hleft⟩

/-- A read gives the bytes up to a newline or to the end of the room, and leaves those after it. -/
theorem Delivers.readLine {source : Source} {bytes : Bytes} (h : source.Delivers bytes)
    (room : Nat) :
    ∃ rest : Source, source.readLine room = (.ok (cutLine room bytes).1, rest) ∧
      rest.Delivers (cutLine room bytes).2 := by
  obtain ⟨hsteady, rfl, hbeyond⟩ := h
  obtain ⟨left, hread, hleft, hrest⟩ := readOn_steady hsteady room []
  rw [← hbeyond] at hread
  exact ⟨{ source with pending := left }, by simp [Source.readLine, hread], hleft, hrest, hbeyond⟩

end Source

namespace Script

variable {script : Script} {source : Source} {line rest : Bytes}

@[simp] theorem withoutNewline_append (line : Bytes) :
    withoutNewline (line ++ [Bytes.newline]) = line := by
  simp [withoutNewline]

theorem withoutNewline_of_notMem (h : Bytes.newline ∉ line) : withoutNewline line = line :=
  if_neg fun hlast => h (List.mem_of_getLast? hlast)

/-- What is read becomes a command, unless it is too long. -/
theorem next_of_read {text : Bytes}
    (hread : script.source.readLine (longestLine + 1) = (.ok text, source)) (hne : text ≠ []) :
    script.next =
      (if (withoutNewline text).length > longestLine then
        .error (.lineTooLong (script.lines + 1) longestLine)
      else .ok (some (Command.parse (script.lines + 1) (withoutNewline text))),
      { script with source := source, lines := script.lines + 1 }) := by
  cases text with
  | nil => exact absurd rfl hne
  | cons first more =>
    unfold next
    rw [hread]
    dsimp only
    split
    · rfl
    · rfl

/-- A line does not contain the newline that ends it, nor any other. -/
theorem newline_notMem_withoutNewline {room : Nat} {text : Bytes}
    (hread : script.source.readLine room = (.ok text, source)) :
    Bytes.newline ∉ withoutNewline text := by
  have hresult : (Source.readOn script.source.beyond script.source.pending room []).1 = .ok text :=
    congrArg Prod.fst hread
  have hbefore := Source.newline_notMem_readOn List.not_mem_nil hresult
  unfold withoutNewline
  split
  · exact hbefore
  · rename_i hlast
    exact Source.newline_notMem_of_dropLast hbefore hlast

theorem delivers_next {bytes : Bytes} (h : script.source.Delivers bytes) :
    (∃ rest, script.next.2.source.Delivers rest) ∧
      ∀ cause, script.next.1 ≠ .error (.readScript cause) := by
  obtain ⟨source, hread, hrest⟩ := h.readLine (longestLine + 1)
  by_cases hend : (Source.cutLine (longestLine + 1) bytes).1 = []
  · rw [hend] at hread
    unfold next
    rw [hread]
    exact ⟨⟨_, hrest⟩, nofun⟩
  · rw [next_of_read hread hend]
    refine ⟨⟨_, hrest⟩, fun cause => ?_⟩
    dsimp only
    split
    · nofun
    · nofun

theorem next_of_delivers_nil (h : script.source.Delivers []) : script.next.1 = .ok none := by
  obtain ⟨source, hread, -⟩ := h.readLine (longestLine + 1)
  rw [Source.cutLine_nil] at hread
  unfold next
  rw [hread]

theorem delivers_nil_next (h : script.source.Delivers []) : script.next.2.source.Delivers [] := by
  obtain ⟨source, hread, hrest⟩ := h.readLine (longestLine + 1)
  rw [Source.cutLine_nil] at hread hrest
  unfold next
  rw [hread]
  exact hrest

/-- The next line of a script, if it is not too long, is the next command. -/
theorem next_of_delivers_line (h : script.source.Delivers (line ++ Bytes.newline :: rest))
    (hline : Bytes.newline ∉ line) (hlength : line.length ≤ longestLine) :
    script.next.1 = .ok (some (Command.parse (script.lines + 1) line)) ∧
      script.next.2.source.Delivers rest ∧ script.next.2.lines = script.lines + 1 := by
  obtain ⟨source, hread, hrest⟩ := h.readLine (longestLine + 1)
  rw [Source.cutLine_line hline (Nat.lt_succ_of_le hlength)] at hread hrest
  rw [next_of_read hread (by simp), withoutNewline_append, if_neg (Nat.not_lt.mpr hlength)]
  exact ⟨rfl, hrest, rfl⟩

end Script
end GuestInit
