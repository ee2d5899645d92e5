import GuestInit.Bytes
import GuestInit.IoError

/-! Where the bytes of a control script come from. A source delivers them in pieces of any size,
and a read may fail, be interrupted, or find an end after which there is more. -/

namespace GuestInit

/-- What one read of a source may meet. -/
inductive Delivery where
  | data (bytes : Bytes)
  | failure (cause : IoError)
  /-- An end that only this read sees. -/
  | ended
deriving DecidableEq, Repr

def Delivery.size : Delivery → Nat
  | data bytes => bytes.length
  | failure _ | ended => 0

/-- The number of bytes in deliveries. -/
def Delivery.total : List Delivery → Nat
  | [] => 0
  | delivery :: rest => delivery.size + total rest

@[simp] theorem Delivery.total_nil : total [] = 0 := rfl
@[simp] theorem Delivery.total_cons (delivery : Delivery) (rest : List Delivery) :
    total (delivery :: rest) = delivery.size + total rest := rfl

structure Source where
  pending : List Delivery
  /-- How reads fail once nothing is pending, or nothing if they meet the end. A source that
  interrupted all of them would never let a read end. -/
  beyond : Option IoError.Lasting
deriving DecidableEq, Repr

namespace Source

def ofDeliveries (pending : List Delivery) : Source := ⟨pending, none⟩

def ofBytes (bytes : Bytes) : Source := ofDeliveries [.data bytes]

/-- A directory can be opened, but not read. -/
def directory : Source := ⟨[], some ⟨.errno Errno.isDirectory, rfl⟩⟩

/-- The number of bytes still to be delivered. -/
def size (source : Source) : Nat := Delivery.total source.pending

/-- Cuts behind the first newline, or behind `room` bytes if there is none among them. -/
def cutLine : Nat → Bytes → Bytes × Bytes
  | 0, bytes => ([], bytes)
  | _ + 1, [] => ([], [])
  | room + 1, byte :: rest =>
    if byte = Bytes.newline then ([byte], rest)
    else ((byte :: (cutLine room rest).1), (cutLine room rest).2)

theorem cutLine_append (room : Nat) (bytes : Bytes) :
    (cutLine room bytes).1 ++ (cutLine room bytes).2 = bytes := by
  fun_induction cutLine room bytes <;> simp_all

/-- Reads on until a newline is read, no room is left, or the source ends. A source that is not
needed any more is left alone. Interrupted reads are repeated; what was read before any other
failure is lost. -/
def readOn (beyond : Option IoError.Lasting) :
    List Delivery → Nat → Bytes → Except IoError Bytes × List Delivery
  | pending, 0, sofar => (.ok sofar, pending)
  | [], _, sofar =>
    match beyond with
    | none => (.ok sofar, [])
    | some cause => (.error cause.val, [])
  | .ended :: rest, _, sofar => (.ok sofar, rest)
  | .failure cause :: rest, room, sofar =>
    if cause.isInterruption then readOn beyond rest room sofar else (.error cause, rest)
  | .data bytes :: rest, room, sofar =>
    match cutLine room bytes with
    | (piece, []) =>
      if piece.getLast? = some Bytes.newline then (.ok (sofar ++ piece), rest)
      else readOn beyond rest (room - piece.length) (sofar ++ piece)
    | (piece, left) => (.ok (sofar ++ piece), .data left :: rest)

/-- The bytes up to and including the next newline, but `room` at most. None at all means the end. -/
def readLine (room : Nat) (source : Source) : Except IoError Bytes × Source :=
  let (result, pending) := readOn source.beyond source.pending room []
  (result, { source with pending := pending })

theorem readOn_size (beyond : Option IoError.Lasting) (pending : List Delivery) (room : Nat)
    (sofar : Bytes) {line : Bytes} (h : (readOn beyond pending room sofar).1 = .ok line) :
    line.length + Delivery.total (readOn beyond pending room sofar).2 ≤
      sofar.length + Delivery.total pending := by
  fun_induction readOn beyond pending room sofar with
  | case1 => simp_all
  | case2 => simp_all
  | case3 => simp at h
  | case4 => simp_all [Delivery.size]
  | case5 _ _ _ _ _ _ ih => simpa [Delivery.size] using ih h
  | case6 => simp at h
  | case7 bytes rest room sofar _ piece hcut hend =>
    have hlen := congrArg List.length (cutLine_append room bytes)
    rw [hcut] at hlen
    simp only [Except.ok.injEq] at h
    subst h
    simp only [List.append_nil, List.length_append, Delivery.total_cons, Delivery.size]
      at hlen ⊢
    omega
  | case8 bytes rest room sofar _ piece hcut hend ih =>
    have hlen := congrArg List.length (cutLine_append room bytes)
    rw [hcut] at hlen
    have := ih h
    simp only [List.append_nil, List.length_append, Delivery.total_cons, Delivery.size]
      at hlen this ⊢
    omega
  | case9 bytes rest room sofar _ piece left hne hcut =>
    have hlen := congrArg List.length (cutLine_append room bytes)
    rw [hcut] at hlen
    simp only [Except.ok.injEq] at h
    subst h
    simp only [List.length_append, Delivery.total_cons, Delivery.size] at hlen ⊢
    omega

/-- What a read returns is taken out of the source. -/
theorem readLine_size {room : Nat} {source : Source} {line : Bytes}
    (h : (source.readLine room).1 = .ok line) :
    line.length + (source.readLine room).2.size ≤ source.size := by
  simpa [readLine, size] using readOn_size source.beyond source.pending room [] h

end Source
end GuestInit
