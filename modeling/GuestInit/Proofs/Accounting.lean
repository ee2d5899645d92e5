import GuestInit.Proofs.Lines

/-! What a script takes from its source, byte for byte. A source is seen as a row of items: bytes,
interruptions, failures and ends. Main statement: whatever the items and however often the script is
read, also past failures and past the end, each read takes up to one item that stops it, and its
answer accounts for all the bytes among them; so no byte is lost, repeated or put elsewhere. -/

namespace GuestInit

/-- One thing that a source has to offer. -/
inductive Item where
  | byte (value : UInt8)
  | interruption
  | failure (cause : IoError)
  | ended
deriving DecidableEq, Repr

namespace Item

def byte? : Item → Option UInt8
  | byte value => some value
  | interruption | failure _ | ended => none

/-- The bytes among items. -/
def bytes (items : List Item) : Bytes := items.filterMap byte?

@[simp] theorem bytes_nil : bytes [] = [] := rfl
@[simp] theorem bytes_byte (value : UInt8) (items : List Item) :
    bytes (byte value :: items) = value :: bytes items := rfl
@[simp] theorem bytes_interruption (items : List Item) :
    bytes (interruption :: items) = bytes items := rfl
@[simp] theorem bytes_failure (cause : IoError) (items : List Item) :
    bytes (failure cause :: items) = bytes items := rfl
@[simp] theorem bytes_ended (items : List Item) : bytes (ended :: items) = bytes items := rfl
@[simp] theorem bytes_append (items items' : List Item) :
    bytes (items ++ items') = bytes items ++ bytes items' := List.filterMap_append ..
@[simp] theorem bytes_map (values : Bytes) : bytes (values.map byte) = values := by
  induction values with
  | nil => rfl
  | cons value values ih => rw [List.map_cons, bytes_byte, ih]

/-- A read goes on after a byte of its line and after an interruption. -/
def GoesOn : Item → Prop
  | byte value => value ≠ Bytes.newline
  | interruption => True
  | failure _ | ended => False

theorem newline_notMem_bytes {items : List Item} (h : ∀ item ∈ items, item.GoesOn) :
    Bytes.newline ∉ bytes items := by
  intro hmem
  obtain ⟨item, hitem, hbyte⟩ := List.mem_filterMap.mp hmem
  cases item with
  | byte value => exact h _ hitem (Option.some.inj hbyte)
  | interruption | failure cause | ended => cases hbyte

theorem goesOn_map {values : Bytes} (h : Bytes.newline ∉ values) :
    ∀ item ∈ values.map byte, item.GoesOn := by
  intro item hitem
  obtain ⟨value, hvalue, rfl⟩ := List.mem_map.mp hitem
  exact fun heq => h (heq ▸ hvalue)

end Item

namespace Delivery

def items : Delivery → List Item
  | data bytes => bytes.map .byte
  | failure cause => [if cause.isInterruption then .interruption else .failure cause]
  | ended => [.ended]

theorem bytes_items (delivery : Delivery) : Item.bytes delivery.items = delivery.bytes := by
  cases delivery with
  | data bytes => exact Item.bytes_map bytes
  | failure cause => by_cases h : cause.isInterruption = true <;> simp [items, bytes, h]
  | ended => rfl

end Delivery

namespace Source

/-- All that is pending in a source, one by one. -/
def items (source : Source) : List Item := source.pending.flatMap Delivery.items

/-- The bytes that are pending in a source. -/
def bytes (source : Source) : Bytes := source.pending.flatMap Delivery.bytes

theorem bytes_items (source : Source) : Item.bytes source.items = source.bytes := by
  unfold items bytes
  induction source.pending with
  | nil => rfl
  | cons delivery rest ih =>
    rw [List.flatMap_cons, Item.bytes_append, Delivery.bytes_items, ih, List.flatMap_cons]

/-- What every read meets once nothing is pending. -/
def last (source : Source) : Item :=
  match source.beyond with
  | none => .ended
  | some cause => .failure cause.val

/-- What is left of a source is `rest` once the items `taken` are taken out: they were the first ones
pending, or all of them and then what follows those for ever. -/
structure Leaves (source : Source) (taken : List Item) (rest : Source) : Prop where
  beyond_eq : rest.beyond = source.beyond
  items_eq : source.items = taken ++ rest.items ∨
    taken = source.items ++ [source.last] ∧ rest.items = []

theorem Leaves.cons {pending : List Delivery} {beyond : Option IoError.Lasting} {taken : List Item}
    {rest : Source} (h : Leaves ⟨pending, beyond⟩ taken rest) (delivery : Delivery) :
    Leaves ⟨delivery :: pending, beyond⟩ (delivery.items ++ taken) rest where
  beyond_eq := h.beyond_eq
  items_eq := by
    rcases h.items_eq with hitems | ⟨rfl, hrest⟩
    · refine .inl ?_
      rw [List.append_assoc, ← hitems]
      rfl
    · refine .inr ⟨?_, hrest⟩
      rw [← List.append_assoc]
      rfl

theorem Leaves.bytes_eq {source rest : Source} {taken : List Item} (h : source.Leaves taken rest) :
    source.bytes = Item.bytes taken ++ rest.bytes := by
  rcases h.items_eq with hitems | ⟨rfl, hrest⟩
  · rw [← bytes_items, hitems, Item.bytes_append, bytes_items]
  · have hlast : Item.bytes [source.last] = [] := by
      unfold last
      cases source.beyond with
      | none => rfl
      | some cause => rfl
    rw [Item.bytes_append, hlast, ← bytes_items rest, hrest, bytes_items]
    simp

section

variable {room : Nat}

theorem exists_append_cons_of_le {bytes : Bytes} (hroom : 0 < room) (hlong : room ≤ bytes.length) :
    ∃ before byte more, bytes = before ++ byte :: more ∧ before.length + 1 = room := by
  have hlast : room - 1 < bytes.length := by omega
  refine ⟨bytes.take (room - 1), bytes[room - 1], bytes.drop (room - 1 + 1), ?_, ?_⟩
  · rw [← List.drop_eq_getElem_cons hlast, List.take_append_drop]
  · rw [List.length_take_of_le (Nat.le_of_lt hlast)]
    omega

/-- A cut is made behind the first newline or where the room ends, or there is none to be made. -/
theorem cutLine_cases (hroom : 0 < room) (bytes : Bytes) :
    (∃ before byte left, bytes = before ++ byte :: left ∧ Bytes.newline ∉ before ∧
      before.length < room ∧ (byte = Bytes.newline ∨ before.length + 1 = room) ∧
      cutLine room bytes = (before ++ [byte], left)) ∨
    (Bytes.newline ∉ bytes ∧ bytes.length < room ∧ cutLine room bytes = (bytes, [])) := by
  obtain ⟨line, rest, rfl, hline, hend⟩ : ∃ line rest, bytes = line ++ rest ∧ Bytes.newline ∉ line ∧
      (rest = [] ∨ ∃ more, rest = Bytes.newline :: more) := by
    by_cases hmem : Bytes.newline ∈ bytes
    · obtain ⟨line, more, rfl, hline⟩ := List.eq_append_cons_of_mem hmem
      exact ⟨line, _, rfl, hline, .inr ⟨more, rfl⟩⟩
    · exact ⟨bytes, [], (List.append_nil bytes).symm, hmem, .inl rfl⟩
  by_cases hlong : room ≤ line.length
  · obtain ⟨before, byte, more, rfl, hlength⟩ := exists_append_cons_of_le hroom hlong
    have hpiece : Bytes.newline ∉ before ++ [byte] := by
      simp only [List.mem_append, List.mem_cons, not_or] at hline
      simp [hline]
    have hcut := cutLine_full hpiece (more ++ rest)
    rw [List.length_append, List.length_singleton, hlength] at hcut
    refine .inl ⟨before, byte, more ++ rest, by simp, fun hmem => ?_, by omega, .inr hlength, ?_⟩
    · exact hpiece (List.mem_append_left _ hmem)
    · simpa using hcut
  · rcases hend with rfl | ⟨more, rfl⟩
    · rw [List.append_nil]
      exact .inr ⟨hline, by omega, cutLine_last hline (by omega)⟩
    · have hcut := cutLine_line hline (Nat.lt_of_not_le hlong) more
      exact .inl ⟨line, Bytes.newline, more, rfl, hline, by omega, .inl rfl, hcut⟩

/-- Where a read stops that may take `total` bytes and has taken `text`, and what it gives then. -/
inductive Stops (total : Nat) (text : Bytes) : Item → Except IoError Bytes → Prop
  | newline : Stops total text (.byte Bytes.newline) (.ok (text ++ [Bytes.newline]))
  | full {byte : UInt8} (hbyte : byte ≠ Bytes.newline) (hfull : text.length + 1 = total) :
      Stops total text (.byte byte) (.ok (text ++ [byte]))
  | ended : Stops total text .ended (.ok text)
  | failed (cause : IoError) : Stops total text (.failure cause) (.error cause)

/-- A read that may take `total` bytes, and had `sofar` before, goes through items up to one that
stops it, and leaves the items behind that one. -/
def ReadsUp (total : Nat) (source : Source) (sofar : Bytes) (answer : Except IoError Bytes)
    (rest : Source) : Prop :=
  ∃ passed stop, (∀ item ∈ passed, Item.GoesOn item) ∧ (sofar ++ Item.bytes passed).length < total ∧
    source.Leaves (passed ++ [stop]) rest ∧ Stops total (sofar ++ Item.bytes passed) stop answer

section

variable {total : Nat} {source rest : Source} {pending left : List Delivery} {beyond : Option IoError.Lasting}
  {sofar : Bytes} {answer : Except IoError Bytes}

/-- The first item stops a read. -/
theorem ReadsUp.of_stop {stop : Item} (hroom : sofar.length < total)
    (hleaves : source.Leaves [stop] rest) (hstop : Stops total sofar stop answer) :
    ReadsUp total source sofar answer rest := by
  rw [← List.append_nil sofar] at hroom hstop
  exact ⟨[], stop, List.forall_mem_nil _, hroom, hleaves, hstop⟩

theorem ReadsUp.interrupted {cause : IoError}
    (h : ReadsUp total ⟨pending, beyond⟩ sofar answer rest) (hcause : cause.isInterruption = true) :
    ReadsUp total ⟨.failure cause :: pending, beyond⟩ sofar answer rest := by
  obtain ⟨passed, stop, hpassed, hroom, hleaves, hstop⟩ := h
  have hmore := hleaves.cons (.failure cause)
  simp only [Delivery.items, hcause, if_true] at hmore
  exact ⟨.interruption :: passed, stop, List.forall_mem_cons.mpr ⟨trivial, hpassed⟩, hroom, hmore,
    hstop⟩

/-- A read goes through a piece without a newline for which there is room. -/
theorem ReadsUp.through {bytes : Bytes}
    (h : ReadsUp total ⟨pending, beyond⟩ (sofar ++ bytes) answer rest)
    (hbytes : Bytes.newline ∉ bytes) :
    ReadsUp total ⟨.data bytes :: pending, beyond⟩ sofar answer rest := by
  obtain ⟨passed, stop, hpassed, hroom, hleaves, hstop⟩ := h
  have hmore := hleaves.cons (.data bytes)
  have hsofar : sofar ++ Item.bytes (bytes.map .byte ++ passed) = sofar ++ bytes ++ Item.bytes passed := by
    rw [Item.bytes_append, Item.bytes_map, List.append_assoc]
  refine ⟨bytes.map .byte ++ passed, stop, ?_, ?_, ?_, ?_⟩
  · exact List.forall_mem_append.mpr ⟨Item.goesOn_map hbytes, hpassed⟩
  · rwa [hsofar]
  · rwa [List.append_assoc]
  · rwa [hsofar]

/-- A piece with a cut in it ends the read there. -/
theorem ReadsUp.of_cut {before more : Bytes} {byte : UInt8} (hbefore : Bytes.newline ∉ before)
    (hroom : (sofar ++ before).length < total)
    (hstop : byte = Bytes.newline ∨ (sofar ++ before).length + 1 = total)
    (hleft : left.flatMap Delivery.items = more.map .byte ++ pending.flatMap Delivery.items) :
    ReadsUp total ⟨.data (before ++ byte :: more) :: pending, beyond⟩ sofar
      (.ok (sofar ++ before ++ [byte])) ⟨left, beyond⟩ := by
  have hbytes : Item.bytes (before.map .byte) = before := Item.bytes_map before
  refine ⟨before.map .byte, .byte byte, Item.goesOn_map hbefore, by rwa [hbytes], ⟨rfl, .inl ?_⟩, ?_⟩
  · simp [Source.items, Delivery.items, hleft]
  · rw [hbytes]
    by_cases hbyte : byte = Bytes.newline
    · exact hbyte ▸ .newline
    · exact .full hbyte (hstop.resolve_left hbyte)

end

theorem readOn_cut {beyond : Option IoError.Lasting} {bytes before more : Bytes} {byte : UInt8}
    (hcut : cutLine (room + 1) bytes = (before ++ [byte], more))
    (hstop : byte = Bytes.newline ∨ before.length + 1 = room + 1) (rest : List Delivery)
    (sofar : Bytes) :
    ∃ left, readOn beyond (.data bytes :: rest) (room + 1) sofar =
        (.ok (sofar ++ before ++ [byte]), left) ∧
      left.flatMap Delivery.items = more.map .byte ++ rest.flatMap Delivery.items := by
  cases more with
  | cons next more => exact ⟨.data (next :: more) :: rest, by simp [readOn, hcut], rfl⟩
  | nil =>
    refine ⟨rest, ?_, rfl⟩
    by_cases hbyte : byte = Bytes.newline
    · simp [readOn, hcut, hbyte]
    · have hfull : room - before.length = 0 := by
        have := hstop.resolve_left hbyte
        omega
      simp [readOn, hcut, hbyte, hfull]

/-- The induction is on what is pending; as long as there is room, a read has not stopped yet. -/
theorem readOn_readsUp {total : Nat} (beyond : Option IoError.Lasting) (pending : List Delivery)
    {sofar : Bytes} (htotal : sofar.length + (room + 1) = total) :
    ReadsUp total ⟨pending, beyond⟩ sofar (readOn beyond pending (room + 1) sofar).1
      ⟨(readOn beyond pending (room + 1) sofar).2, beyond⟩ := by
  have hroom : sofar.length < total := by omega
  induction pending generalizing room sofar with
  | nil =>
    cases beyond with
    | none => exact .of_stop hroom ⟨rfl, .inr ⟨rfl, rfl⟩⟩ .ended
    | some cause => exact .of_stop hroom ⟨rfl, .inr ⟨rfl, rfl⟩⟩ (.failed cause)
  | cons delivery rest ih =>
    cases delivery with
    | ended => exact .of_stop hroom ⟨rfl, .inl rfl⟩ .ended
    | failure cause =>
      by_cases hcause : cause.isInterruption = true
      · simp only [readOn, if_pos hcause]
        exact (ih htotal hroom).interrupted hcause
      · have hitems : (Delivery.failure cause).items = [.failure cause] := by
          simp [Delivery.items, hcause]
        simp only [readOn, if_neg hcause]
        exact .of_stop hroom ⟨rfl, .inl (by simp [Source.items, hitems])⟩ (.failed cause)
    | data bytes =>
      rcases cutLine_cases (Nat.succ_pos room) bytes with
        ⟨before, byte, more, rfl, hbefore, hlength, hstop, hcut⟩ | ⟨hbytes, hlength, hcut⟩
      · obtain ⟨left, hread, hleft⟩ := readOn_cut hcut hstop rest sofar
        rw [hread]
        refine .of_cut hbefore ?_ (hstop.imp_right fun hfull => ?_) hleft
        · rw [List.length_append]
          omega
        · rw [List.length_append]
          omega
      · have hopen : bytes.getLast? ≠ some Bytes.newline :=
          fun hlast => hbytes (List.mem_of_getLast? hlast)
        obtain ⟨more, hmore⟩ : ∃ more, room + 1 - bytes.length = more + 1 :=
          Nat.exists_eq_add_one.mpr (by omega)
        have hnext : readOn beyond (.data bytes :: rest) (room + 1) sofar =
            readOn beyond rest (more + 1) (sofar ++ bytes) := by
          simp [readOn, hcut, hopen, ← hmore]
        have hlength' : (sofar ++ bytes).length = sofar.length + bytes.length := List.length_append
        rw [hnext]
        exact (ih (by omega) (by omega)).through hbytes

end

theorem readLine_readsUp (room : Nat) (source : Source) :
    ReadsUp (room + 1) source [] (source.readLine (room + 1)).1 (source.readLine (room + 1)).2 :=
  readOn_readsUp source.beyond source.pending (by simp)

end Source

namespace Command

/-- A command as it stands in the script: an exclamation mark, if it is the worker's, and its raw
bytes. -/
def text (command : Command) : Bytes :=
  match command.privilege with
  | .worker => 0x21 :: command.raw
  | .master => command.raw

theorem text_parse (line : Nat) (bytes : Bytes) : (parse line bytes).text = bytes := by
  cases bytes with
  | nil => rfl
  | cons first rest =>
    by_cases hfirst : first = 0x21
    · simp [parse, text, workerMarker, hfirst]
    · simp [parse, text, workerMarker, hfirst]

end Command

namespace Script

open Bytes (newline)

/-- How the answer of a read accounts for the bytes it took, depending on what stopped it. Only
commands and lines that are too long are counted as lines. -/
inductive Accounts (script : Script) : (account : Bytes) → (stop : Item) → Prop
  | line {command : Command} (hanswer : script.next.1 = .ok (some command))
      (hnumber : command.line = script.lines + 1) (hlines : script.next.2.lines = script.lines + 1) :
      Accounts script (command.text ++ [newline]) (.byte newline)
  | lastLine {command : Command} (hanswer : script.next.1 = .ok (some command))
      (hnumber : command.line = script.lines + 1) (hlines : script.next.2.lines = script.lines + 1)
      (hne : command.text ≠ []) : Accounts script command.text .ended
  | tooLong {account byte} (hanswer : script.next.1 = .error (.lineTooLong (script.lines + 1) 4096))
      (hlines : script.next.2.lines = script.lines + 1) (hlength : account.length = 4097)
      (hnewline : newline ∉ account) : Accounts script account (.byte byte)
  | failed {account cause} (hanswer : script.next.1 = .error (.readScript cause))
      (hlines : script.next.2.lines = script.lines) : Accounts script account (.failure cause)
  | ended (hanswer : script.next.1 = .ok none) (hlines : script.next.2.lines = script.lines) :
      Accounts script [] .ended

/-- A read takes items without a newline and one that stops it, and its answer accounts for the bytes
among them. -/
def Reads (script : Script) (account : Bytes) : Prop :=
  ∃ passed stop, (∀ item ∈ passed, Item.GoesOn item) ∧ (Item.bytes passed).length ≤ 4096 ∧
    script.source.Leaves (passed ++ [stop]) script.next.2.source ∧
    account = Item.bytes (passed ++ [stop]) ∧ script.Accounts account stop

theorem accounts_of_stops {script : Script} {text : Bytes} {stop : Item} {answer : Except IoError Bytes}
    {source : Source} (hread : script.source.readLine (longestLine + 1) = (answer, source))
    (hnewline : newline ∉ text) (hlength : text.length ≤ longestLine)
    (hstop : Source.Stops (longestLine + 1) text stop answer) :
    script.next.2.source = source ∧ script.Accounts (text ++ Item.bytes [stop]) stop := by
  cases hstop with
  | newline =>
    have hnext := next_of_read hread (by simp)
    rw [withoutNewline_append, if_neg (Nat.not_lt.mpr hlength)] at hnext
    have haccounts : script.Accounts ((Command.parse (script.lines + 1) text).text ++ [newline])
        (.byte newline) := .line (by rw [hnext]) (Command.parse_line _ _) (by rw [hnext])
    rw [Command.text_parse] at haccounts
    exact ⟨by rw [hnext], haccounts⟩
  | @full byte hbyte hfull =>
    have hpiece : newline ∉ text ++ [byte] :=
      List.not_mem_append hnewline fun hmem => hbyte (List.mem_singleton.mp hmem).symm
    have hcount : (text ++ [byte]).length = longestLine + 1 := by simpa using hfull
    have hnext := next_of_read hread (by simp)
    rw [withoutNewline_of_notMem hpiece, if_pos (by omega)] at hnext
    exact ⟨by rw [hnext], .tooLong (by rw [hnext, longestLine]) (by rw [hnext]) hcount hpiece⟩
  | ended =>
    rw [Item.bytes_ended, Item.bytes_nil, List.append_nil]
    by_cases hne : text = []
    · subst hne
      have hnext : script.next = (.ok none, { script with source := source }) := by
        unfold next
        rw [hread]
      exact ⟨by rw [hnext], .ended (by rw [hnext]) (by rw [hnext])⟩
    · have hnext := next_of_read hread hne
      rw [withoutNewline_of_notMem hnewline, if_neg (Nat.not_lt.mpr hlength)] at hnext
      have htext : (Command.parse (script.lines + 1) text).text = text := Command.text_parse _ _
      have haccounts : script.Accounts (Command.parse (script.lines + 1) text).text .ended :=
        .lastLine (by rw [hnext]) (Command.parse_line _ _) (by rw [hnext]) (by rwa [htext])
      rw [htext] at haccounts
      exact ⟨by rw [hnext], haccounts⟩
  | failed cause =>
    have hnext : script.next = (.error (.readScript cause), { script with source := source }) := by
      unfold next
      rw [hread]
    exact ⟨by rw [hnext], .failed (by rw [hnext]) (by rw [hnext])⟩

theorem exists_reads (script : Script) : ∃ account, script.Reads account := by
  obtain ⟨passed, stop, hpassed, hroom, hleaves, hstop⟩ :=
    Source.readLine_readsUp longestLine script.source
  rw [List.nil_append] at hroom hstop
  have hlength : (Item.bytes passed).length ≤ longestLine := Nat.le_of_lt_succ hroom
  obtain ⟨hsource, haccounts⟩ :=
    accounts_of_stops (Prod.eta _).symm (Item.newline_notMem_bytes hpassed) hlength hstop
  rw [← Item.bytes_append] at haccounts
  rw [← hsource] at hleaves
  exact ⟨_, passed, stop, hpassed, hlength, hleaves, rfl, haccounts⟩

theorem Reads.bytes_eq {script : Script} {account : Bytes} (h : script.Reads account) :
    script.source.bytes = account ++ script.next.2.source.bytes := by
  obtain ⟨passed, stop, -, -, hleaves, rfl, -⟩ := h
  exact hleaves.bytes_eq

/-- Whatever a source consists of, and however often a script is read from it, also past failures and
past the end: each read begins where the one before stopped, takes items up to a newline, to as many
bytes as make a line too long, to a failure or to an end, and accounts for the bytes it took; and all
these bytes in order, followed by those that are left, are the bytes of the source. -/
theorem reads_accounted (script : Script) (k : Nat) :
    ∃ accounts : List Bytes, accounts.length = k ∧
      (∀ i account, accounts[i]? = some account → (script.after i).Reads account) ∧
      script.source.bytes = accounts.flatten ++ (script.after k).source.bytes := by
  induction k generalizing script with
  | zero => exact ⟨[], rfl, by simp, rfl⟩
  | succ k ih =>
    obtain ⟨account, hread⟩ := exists_reads script
    obtain ⟨accounts, hlength, hreads, hbytes⟩ := ih script.next.2
    refine ⟨account :: accounts, by simp [hlength], fun i account' hi => ?_, ?_⟩
    · cases i with
      | zero =>
        obtain rfl : account = account' := by simpa using hi
        exact hread
      | succ i => exact hreads i account' (by simpa using hi)
    · rw [hread.bytes_eq, hbytes, List.flatten_cons, List.append_assoc, after_succ]

end Script
end GuestInit
