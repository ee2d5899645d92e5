import GuestInit.Proofs.Grammar

/-! How a line is read. A backslash is set aside until the byte after it is known; seen with that one
byte of lookahead, reading is always either between two arguments or within one, and it does to a
piece of the grammar what the grammar says the piece stands for. -/

namespace GuestInit.Arguments

open Grammar

/-! The bytes of the grammar, as they are told apart. -/

def Quote.byte : Quote → UInt8
  | single => singleQuote
  | double => doubleQuote

theorem kind_quote (mark : Quote) : kind mark.byte = .quote mark := by
  cases mark
  · decide
  · decide

theorem kind_backslash : kind backslash = .backslash := by decide

theorem kind_of_blank {byte : UInt8} (h : byte ∈ blanks) : kind byte = .blank := by
  have hblanks : blanks.all (fun byte => kind byte = .blank) = true := by decide
  simpa using List.all_eq_true.mp hblanks byte h

theorem kind_of_plain {byte : UInt8} (h : Plain byte) : kind byte = .plain := by
  obtain ⟨hnul, hblank, hsingle, hdouble, hbackslash⟩ := h
  simp only [blanks, List.mem_cons, List.not_mem_nil, or_false] at hblank
  simp only [Bytes.nul, singleQuote, doubleQuote] at hnul hsingle hdouble
  simp only [kind, hnul, hblank, hsingle, hdouble, hbackslash, if_false]

theorem byte_cases (byte : UInt8) :
    byte = Bytes.nul ∨ byte ∈ blanks ∨ (∃ mark : Quote, byte = mark.byte) ∨ byte = backslash ∨
      Plain byte := by
  by_cases hnul : byte = Bytes.nul
  · exact .inl hnul
  by_cases hblank : byte ∈ blanks
  · exact .inr (.inl hblank)
  by_cases hsingle : byte = singleQuote
  · exact .inr (.inr (.inl ⟨.single, hsingle⟩))
  by_cases hdouble : byte = doubleQuote
  · exact .inr (.inr (.inl ⟨.double, hdouble⟩))
  by_cases hbackslash : byte = backslash
  · exact .inr (.inr (.inr (.inl hbackslash)))
  · exact .inr (.inr (.inr (.inr ⟨hnul, hblank, hsingle, hdouble, hbackslash⟩)))

theorem unescape_of_mem {letter meant : UInt8} (h : (letter, meant) ∈ escapes) :
    unescape letter = some meant := by
  have hescapes : escapes.all (fun entry => unescape entry.1 = some entry.2) = true := by decide
  simpa using List.all_eq_true.mp hescapes (letter, meant) h

theorem mem_of_unescape {letter meant : UInt8} (h : unescape letter = some meant) :
    (letter, meant) ∈ escapes := by
  unfold unescape at h
  repeat' split at h
  all_goals simp_all [escapes, backslash, singleQuote, doubleQuote]

/-- What follows a backslash makes an escape of it or does not. -/
theorem letter_cases (rest : Bytes) :
    (∃ letter meant tail, rest = letter :: tail ∧ (letter, meant) ∈ escapes) ∨ NoLetter rest := by
  cases rest with
  | nil => exact .inr nofun
  | cons next tail =>
    cases hmeant : unescape next with
    | some meant => exact .inl ⟨next, meant, tail, rfl, mem_of_unescape hmeant⟩
    | none =>
      refine .inr fun byte hbyte meant hmem => ?_
      obtain rfl : next = byte := Option.some.inj hbyte
      rw [unescape_of_mem hmem] at hmeant
      cases hmeant

namespace Progress

/-- Reads the rest of a line. -/
def readAll (limit : Nat) (p : Progress) (rest : Bytes) : Except ArgumentError Arguments := do
  (← rest.foldlM (step limit) p).close

/-- Between two arguments. -/
def between (finished : List Bytes) : Progress := ⟨finished, none, none, false⟩

/-- Within an argument, of which `field` has been read. -/
def within (finished : List Bytes) (field : Bytes) (quote : Option Quote) : Progress :=
  ⟨finished, some field, quote, false⟩

/-- Within an argument, after a backslash that may begin an escape. -/
def pending (finished : List Bytes) (field : Bytes) (quote : Option Quote) : Progress :=
  ⟨finished, some field, quote, true⟩

variable {limit : Nat} {finished : List Bytes} {field rest : Bytes} {byte : UInt8}
  {quote : Option Quote} {mark : Quote}

@[simp] theorem within_quote : (within finished field quote).quote = quote := rfl
@[simp] theorem between_quote : (between finished).quote = none := rfl
@[simp] theorem within_step :
    (within finished field quote).step limit byte = (within finished field quote).read limit byte :=
  rfl
@[simp] theorem between_step :
    (between finished).step limit byte = (between finished).read limit byte := rfl
@[simp] theorem within_opened :
    (within finished field quote).opened limit = .ok (within finished field quote) := rfl
@[simp] theorem within_push :
    (within finished field quote).push limit byte = .ok (within finished (byte :: field) quote) := rfl
@[simp] theorem within_finish :
    (within finished field none).finish = between (field.reverse :: finished) := rfl
@[simp] theorem between_finish : (between finished).finish = between finished := rfl

theorem between_opened (h : finished.length < limit) :
    (between finished).opened limit = .ok (within finished [] none) := if_pos h

theorem between_opened_full (h : ¬ finished.length < limit) :
    (between finished).opened limit = .error (.tooMany limit) := if_neg h

/-! What a byte does to either kind of progress. -/

theorem step_gap (h : byte ∈ blanks) :
    (between finished).step limit byte = .ok (between finished) := by
  simp [read, kind_of_blank h]

/-- Any byte that is neither NUL nor blank begins an argument, if there may be one more. -/
theorem step_begin (hnul : byte ≠ Bytes.nul) (hblank : byte ∉ blanks)
    (hroom : finished.length < limit) :
    (between finished).step limit byte = (within finished [] none).step limit byte := by
  rw [between_step, within_step]
  rcases byte_cases byte with rfl | h | ⟨mark, rfl⟩ | rfl | h
  · exact absurd rfl hnul
  · exact absurd h hblank
  · simp [read, kind_quote, between_opened hroom]
  · simp [read, kind_backslash, between_opened hroom]
  · simp [read, kind_of_plain h, push, between_opened hroom]

theorem step_full (hnul : byte ≠ Bytes.nul) (hblank : byte ∉ blanks)
    (hfull : ¬ finished.length < limit) :
    (between finished).step limit byte = .error (.tooMany limit) := by
  rw [between_step]
  rcases byte_cases byte with rfl | h | ⟨mark, rfl⟩ | rfl | h
  · exact absurd rfl hnul
  · exact absurd h hblank
  · simp [read, kind_quote, between_opened_full hfull, Except.map]
  · simp [read, kind_backslash, between_opened_full hfull, Except.map]
  · simp [read, kind_of_plain h, push, between_opened_full hfull, Except.map]

theorem step_blank (h : byte ∈ blanks) : (within finished field none).step limit byte =
    .ok (between (field.reverse :: finished)) := by
  simp [read, kind_of_blank h]

theorem step_plain (h : Plain byte) : (within finished field none).step limit byte =
    .ok (within finished (byte :: field) none) := by
  simp [read, kind_of_plain h]

theorem step_open (mark : Quote) : (within finished field none).step limit mark.byte =
    .ok (within finished field (some mark)) := by
  simp only [within_step, read, kind_quote, within_quote]
  rfl

theorem step_close (mark : Quote) : (within finished field (some mark)).step limit mark.byte =
    .ok (within finished field none) := by
  simp only [within_step, read, kind_quote, within_quote, if_true]
  rfl

/-- A quoted run takes every byte as it is but NUL, its own quote, and a backslash in double quotes. -/
theorem step_verbatim (mark : Quote) (hnul : byte ≠ Bytes.nul) (hquote : byte ≠ mark.byte)
    (hbackslash : mark = .double → byte ≠ backslash) :
    (within finished field (some mark)).step limit byte =
      .ok (within finished (byte :: field) (some mark)) := by
  rcases byte_cases byte with rfl | h | ⟨other, rfl⟩ | rfl | h
  · exact absurd rfl hnul
  · simp [read, kind_of_blank h]
  · have hother : mark ≠ other := by
      rintro rfl
      exact hquote rfl
    simp [read, kind_quote, hother]
  · have hsingle : mark = .single := by
      cases mark with
      | single => rfl
      | double => exact absurd rfl (hbackslash rfl)
    simp [read, kind_backslash, hsingle]
  · simp [read, kind_of_plain h]

/-- A backslash is set aside. -/
theorem step_backslash (hquote : quote ≠ some .single) :
    (within finished field quote).step limit backslash = .ok (pending finished field quote) := by
  simp only [within_step, read, kind_backslash, within_quote, hquote, if_false]
  rfl

theorem step_escape {letter meant : UInt8} (h : (letter, meant) ∈ escapes) :
    (pending finished field quote).step limit letter =
      .ok (within finished (meant :: field) quote) := by
  simp only [step, pending, if_true, unescape_of_mem h]
  rfl

/-- Where no letter of an escape follows, the backslash stands for itself. -/
theorem step_lone (h : unescape byte = none) : (pending finished field quote).step limit byte =
    (within finished (backslash :: field) quote).step limit byte := by
  simp only [step, pending, if_true, h]
  rfl

/-! Reading on from either kind of progress. -/

theorem readAll_cons (limit : Nat) (p : Progress) (byte : UInt8) (rest : Bytes) :
    p.readAll limit (byte :: rest) = p.step limit byte >>= fun p => p.readAll limit rest := by
  simp only [readAll, List.foldlM_cons, bind_assoc]

theorem readAll_of_step {p q : Progress} (h : p.step limit byte = .ok q) :
    p.readAll limit (byte :: rest) = q.readAll limit rest := by
  rw [readAll_cons, h]
  rfl

theorem between_nil : (between finished).readAll limit [] = .ok finished.reverse := rfl

theorem within_nil :
    (within finished field none).readAll limit [] = .ok (field.reverse :: finished).reverse := rfl

theorem open_nil : (within finished field (some mark)).readAll limit [] = .error .unbalancedQuotes :=
  rfl

theorem between_nul : (between finished).readAll limit (Bytes.nul :: rest) = .error .nulByte := rfl

theorem within_nul :
    (within finished field quote).readAll limit (Bytes.nul :: rest) = .error .nulByte := rfl

theorem between_blank (h : byte ∈ blanks) :
    (between finished).readAll limit (byte :: rest) = (between finished).readAll limit rest :=
  readAll_of_step (step_gap h)

theorem within_blank (h : byte ∈ blanks) :
    (within finished field none).readAll limit (byte :: rest) =
      (between (field.reverse :: finished)).readAll limit rest :=
  readAll_of_step (step_blank h)

theorem between_begin (hnul : byte ≠ Bytes.nul) (hblank : byte ∉ blanks)
    (hroom : finished.length < limit) :
    (between finished).readAll limit (byte :: rest) =
      (within finished [] none).readAll limit (byte :: rest) := by
  rw [readAll_cons, readAll_cons, step_begin hnul hblank hroom]

theorem between_full (hnul : byte ≠ Bytes.nul) (hblank : byte ∉ blanks)
    (hfull : ¬ finished.length < limit) :
    (between finished).readAll limit (byte :: rest) = .error (.tooMany limit) := by
  rw [readAll_cons, step_full hnul hblank hfull]
  rfl

theorem within_plain (h : Plain byte) :
    (within finished field none).readAll limit (byte :: rest) =
      (within finished (byte :: field) none).readAll limit rest :=
  readAll_of_step (step_plain h)

theorem within_open (mark : Quote) :
    (within finished field none).readAll limit (mark.byte :: rest) =
      (within finished field (some mark)).readAll limit rest :=
  readAll_of_step (step_open mark)

theorem within_close (mark : Quote) :
    (within finished field (some mark)).readAll limit (mark.byte :: rest) =
      (within finished field none).readAll limit rest :=
  readAll_of_step (step_close mark)

theorem within_verbatim (mark : Quote) (hnul : byte ≠ Bytes.nul) (hquote : byte ≠ mark.byte)
    (hbackslash : mark = .double → byte ≠ backslash) :
    (within finished field (some mark)).readAll limit (byte :: rest) =
      (within finished (byte :: field) (some mark)).readAll limit rest :=
  readAll_of_step (step_verbatim mark hnul hquote hbackslash)

theorem within_escape {letter meant : UInt8} (hquote : quote ≠ some .single)
    (h : (letter, meant) ∈ escapes) :
    (within finished field quote).readAll limit (backslash :: letter :: rest) =
      (within finished (meant :: field) quote).readAll limit rest := by
  rw [readAll_of_step (step_backslash hquote), readAll_of_step (step_escape h)]

theorem within_lone (hquote : quote ≠ some .single) (h : NoLetter rest) :
    (within finished field quote).readAll limit (backslash :: rest) =
      (within finished (backslash :: field) quote).readAll limit rest := by
  rw [readAll_of_step (step_backslash hquote)]
  cases rest with
  | nil => rfl
  | cons next rest =>
    have hnone : unescape next = none := by
      cases hmeant : unescape next with
      | none => rfl
      | some meant => exact absurd (mem_of_unescape hmeant) (h next rfl meant)
    rw [readAll_cons, readAll_cons, step_lone hnone]

/-! What a derivation says of a line, its reading does. -/

theorem read_single {content : Bytes}
    (hcontent : ∀ byte ∈ content, byte ≠ Bytes.nul ∧ byte ≠ singleQuote) (field rest : Bytes) :
    (within finished field (some .single)).readAll limit (content ++ rest) =
      (within finished (content.reverse ++ field) (some .single)).readAll limit rest := by
  induction content generalizing field with
  | nil => rfl
  | cons byte content ih =>
    obtain ⟨⟨hnul, hquote⟩, hrest⟩ := List.forall_mem_cons.mp hcontent
    rw [List.cons_append, within_verbatim .single hnul hquote nofun, ih hrest]
    simp

theorem read_quoted {written value : Bytes} (h : Quoted written value rest) (field : Bytes) :
    (within finished field (some .double)).readAll limit (written ++ rest) =
      (within finished (value.reverse ++ field) (some .double)).readAll limit rest := by
  have hdouble : some Quote.double ≠ some .single := nofun
  induction h generalizing field with
  | nil rest => rfl
  | verbatim hnul hquote hbackslash _ ih =>
    rw [List.cons_append, within_verbatim .double hnul hquote fun _ => hbackslash, ih]
    simp
  | escape hletter _ ih =>
    rw [List.cons_append, List.cons_append, within_escape hdouble hletter, ih]
    simp
  | lone hletter _ ih =>
    rw [List.cons_append, within_lone hdouble hletter, ih]
    simp

/-- A quoted run leaves behind what its inside does. -/
theorem read_run (mark : Quote) {content field' : Bytes}
    (hinside : (within finished field (some mark)).readAll limit (content ++ mark.byte :: rest) =
      (within finished field' (some mark)).readAll limit (mark.byte :: rest)) :
    (within finished field none).readAll limit (mark.byte :: (content ++ [mark.byte]) ++ rest) =
      (within finished field' none).readAll limit rest :=
  calc (within finished field none).readAll limit (mark.byte :: (content ++ [mark.byte]) ++ rest)
    _ = (within finished field none).readAll limit (mark.byte :: (content ++ mark.byte :: rest)) := by
        simp
    _ = (within finished field (some mark)).readAll limit (content ++ mark.byte :: rest) :=
        within_open mark
    _ = (within finished field' (some mark)).readAll limit (mark.byte :: rest) := hinside
    _ = (within finished field' none).readAll limit rest := within_close mark

theorem read_piece {written value : Bytes} (h : Piece written value rest) (field : Bytes) :
    (within finished field none).readAll limit (written ++ rest) =
      (within finished (value.reverse ++ field) none).readAll limit rest := by
  cases h with
  | plain _ hplain => exact within_plain hplain
  | escape _ hletter => exact within_escape nofun hletter
  | lone hletter => exact within_lone nofun hletter
  | single _ hcontent => exact read_run .single (read_single hcontent field (singleQuote :: rest))
  | double hquoted => exact read_run .double (read_quoted hquoted field)

theorem read_pieces {written value : Bytes} (h : Pieces written value rest) (field : Bytes) :
    (within finished field none).readAll limit (written ++ rest) =
      (within finished (value.reverse ++ field) none).readAll limit rest := by
  induction h generalizing field with
  | nil rest => rfl
  | cons hpiece _ ih =>
    rw [List.append_assoc, read_piece hpiece, ih]
    simp

theorem read_blanks {gap : Bytes} (h : Blanks gap) (finished : List Bytes) (rest : Bytes) :
    (between finished).readAll limit (gap ++ rest) = (between finished).readAll limit rest := by
  induction gap with
  | nil => rfl
  | cons byte gap ih =>
    obtain ⟨hblank, hgap⟩ := List.forall_mem_cons.mp h
    rw [List.cons_append, between_blank hblank, ih hgap]

/-- Blanks end an argument. -/
theorem read_gap {gap : Bytes} (h : Blanks gap) (hne : gap ≠ []) (rest : Bytes) :
    (within finished field none).readAll limit (gap ++ rest) =
      (between (field.reverse :: finished)).readAll limit rest := by
  cases gap with
  | nil => exact absurd rfl hne
  | cons byte gap =>
    obtain ⟨hblank, hgap⟩ := List.forall_mem_cons.mp h
    rw [List.cons_append, within_blank hblank, read_blanks hgap]

theorem read_trail {trail : Bytes} (h : Blanks trail) :
    (within finished field none).readAll limit trail = .ok (field.reverse :: finished).reverse := by
  by_cases hne : trail = []
  · rw [hne, within_nil]
  · calc (within finished field none).readAll limit trail
      _ = (within finished field none).readAll limit (trail ++ []) := by rw [List.append_nil]
      _ = (between (field.reverse :: finished)).readAll limit [] := read_gap h hne []
      _ = .ok (field.reverse :: finished).reverse := between_nil

theorem read_field {written value : Bytes} (h : Field written value rest)
    (hroom : finished.length < limit) :
    (between finished).readAll limit (written ++ rest) =
      (within finished value.reverse none).readAll limit rest := by
  obtain ⟨byte, tail, rfl, hnul, hblank⟩ := h.begins
  rw [List.cons_append, between_begin hnul hblank hroom, ← List.cons_append, read_pieces h.2,
    List.append_nil]

theorem read_fields {arguments : Arguments} (h : Fields rest arguments)
    (hlimit : finished.length + arguments.length ≤ limit) :
    (between finished).readAll limit rest = .ok (finished.reverse ++ arguments) := by
  induction h generalizing finished with
  | last hfield htrail =>
    have hroom : finished.length < limit := hlimit
    rw [read_field hfield hroom, read_trail htrail]
    simp
  | @cons _ value _ rest arguments hfield hgap hne _ ih =>
    rw [List.length_cons] at hlimit
    have hroom : finished.length < limit := by omega
    have hrest : (value :: finished).length + arguments.length ≤ limit := by
      rw [List.length_cons]
      omega
    rw [read_field hfield hroom, read_gap hgap hne, List.reverse_reverse, ih hrest]
    simp

end Progress

/-- A line that the grammar derives is cut into the arguments it stands for. -/
theorem splitWithin_of_line {limit : Nat} {line : Bytes} {arguments : Arguments}
    (h : Line line arguments) (hlimit : arguments.length ≤ limit) :
    splitWithin limit line = .ok arguments := by
  show (Progress.between []).readAll limit line = .ok arguments
  cases h with
  | blank hblank =>
    calc (Progress.between []).readAll limit line
      _ = (Progress.between []).readAll limit (line ++ []) := by rw [List.append_nil]
      _ = (Progress.between []).readAll limit [] := Progress.read_blanks hblank [] []
      _ = .ok [] := Progress.between_nil
  | fields hlead hfields =>
    have hcount : ([] : List Bytes).length + arguments.length ≤ limit := by simpa using hlimit
    rw [Progress.read_blanks hlead, Progress.read_fields hfields hcount]
    rfl

end GuestInit.Arguments
