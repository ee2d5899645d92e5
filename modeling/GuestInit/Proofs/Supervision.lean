import GuestInit.Proofs.NulFree
import GuestInit.Proofs.PrivilegeDrop

/-! A launch as the supervisor sees it. A line that does not split is refused before anything is called;
any other one is forked for once, and its process is waited for until the wait is not interrupted. What
the word of the kernel then says about the end of the process decides whether the run may go on.
Main statement: `launch_supervised`. -/

namespace GuestInit

namespace ExitStatus

/-- How the kernel's word is read as a signed integer, in which a shift keeps the sign. -/
def ofSigned (word : Int32) : ExitStatus :=
  if word &&& 0x7F = 0 then code ((word >>> 8) &&& 0xFF).toInt else signal (word &&& 0x7F).toInt

theorem signal_bits (word : Int32) :
    ((word.toUInt32 &&& 0x7F).toNat : Int) = (word &&& 0x7F).toInt := by
  have hbound : (word.toBitVec &&& 0x7F#32).toNat ≤ 0x7F := by
    rw [BitVec.toNat_and]
    exact Nat.and_le_right
  show ((word.toBitVec &&& 0x7F#32).toNat : Int) = (word.toBitVec &&& 0x7F#32).toInt
  rw [BitVec.toInt_eq_toNat_of_lt (by omega)]

/-- The eight bits above the low ones are the same under either shift. -/
theorem shift_bits (bits : BitVec 32) : bits.sshiftRight 8 &&& 0xFF#32 = bits >>> 8 &&& 0xFF#32 := by
  refine BitVec.eq_of_getLsbD_eq fun i hi => ?_
  rw [BitVec.getLsbD_and, BitVec.getLsbD_and, BitVec.getLsbD_sshiftRight, BitVec.getLsbD_ushiftRight]
  by_cases hlow : i < 8
  · have hin : 8 + i < 32 := by omega
    have hwidth : ¬ 32 ≤ i := by omega
    simp [hin, hi, hwidth]
  · have hmask : ∀ j < 32, 8 ≤ j → (0xFF#32).getLsbD j = false := by decide
    rw [hmask i hi (by omega), Bool.and_false, Bool.and_false]

theorem code_bits (word : Int32) :
    (((word.toUInt32 >>> 8) &&& 0xFF).toNat : Int) = ((word >>> 8) &&& 0xFF).toInt := by
  have hbound : (word.toBitVec >>> 8 &&& 0xFF#32).toNat ≤ 0xFF := by
    rw [BitVec.toNat_and]
    exact Nat.and_le_right
  show ((word.toBitVec >>> 8 &&& 0xFF#32).toNat : Int) = (word.toBitVec.sshiftRight 8 &&& 0xFF#32).toInt
  rw [shift_bits, BitVec.toInt_eq_toNat_of_lt (by omega)]

theorem signal_bits_eq_zero (word : Int32) : word.toUInt32 &&& 0x7F = 0 ↔ word &&& 0x7F = 0 := by
  rw [← UInt32.toBitVec_inj, ← Int32.toBitVec_inj]
  exact Iff.rfl

theorem ofWord_signed (word : Int32) : ofWord word.toUInt32 = ofSigned word := by
  simp only [ofWord, ofSigned, signal_bits_eq_zero, signal_bits, code_bits]

/-- All bits that count are zero if and only if none of a signal and none of a code is set. -/
theorem mask_bits (bits : BitVec 32) :
    bits &&& 0xFF7F#32 = 0#32 ↔ bits &&& 0x7F#32 = 0#32 ∧ bits >>> 8 &&& 0xFF#32 = 0#32 := by
  constructor
  · intro h
    have hlow : bits &&& 0x7F#32 = bits &&& 0xFF7F#32 &&& 0x7F#32 := by
      rw [BitVec.and_assoc]
      rfl
    have hhigh : bits >>> 8 &&& 0xFF#32 = (bits &&& 0xFF7F#32) >>> 8 := by
      rw [BitVec.ushiftRight_and_distrib]
      rfl
    rw [hlow, hhigh, h]
    exact ⟨rfl, rfl⟩
  · rintro ⟨hlow, hhigh⟩
    refine BitVec.eq_of_getLsbD_eq fun i hi => ?_
    have hlow' := congrArg (BitVec.getLsbD · i) hlow
    have hhigh' := congrArg (BitVec.getLsbD · (i - 8)) hhigh
    simp only [BitVec.getLsbD_and, BitVec.getLsbD_ushiftRight, BitVec.getLsbD_zero] at hlow' hhigh' ⊢
    have hmask : ∀ j < 32, (0xFF7F#32).getLsbD j = true →
      (0x7F#32).getLsbD j = true ∨ (8 ≤ j ∧ (0xFF#32).getLsbD (j - 8) = true) := by decide
    cases hbit : (0xFF7F#32).getLsbD i with
    | false => rw [Bool.and_false]
    | true =>
      rcases hmask i hi hbit with hset | ⟨hle, hset⟩
      · rwa [hset] at hlow'
      · rwa [hset, Nat.add_sub_cancel' hle] at hhigh'

/-- A process has succeeded if and only if no bit is set that tells of a signal or of a code. -/
theorem ofSigned_eq_success_iff (word : Int32) : ofSigned word = code 0 ↔ word &&& 0xFF7F = 0 := by
  have hall : word &&& 0xFF7F = 0 ↔ word.toBitVec &&& 0xFF7F#32 = 0#32 := Int32.toBitVec_inj.symm
  have hlow : word &&& 0x7F = 0 ↔ word.toBitVec &&& 0x7F#32 = 0#32 := Int32.toBitVec_inj.symm
  have hhigh : (word >>> 8 &&& 0xFF).toInt = 0 ↔ word.toBitVec >>> 8 &&& 0xFF#32 = 0#32 := by
    rw [← shift_bits]
    exact BitVec.toInt_inj (y := 0#32)
  rw [hall, mask_bits, ← hlow, ← hhigh]
  by_cases hsignal : word &&& 0x7F = 0
  · simp [ofSigned, hsignal]
  · simp [ofSigned, hsignal]

end ExitStatus

namespace Launch

open Kernel Program

/-- A wait that a signal cut short, which is error 4. -/
def Interrupted (reply : Reply) : Prop := reply.value < 0 ∧ reply.errno = 4

def waits (pid : Int) (replies : List Reply) : List Event := replies.map (answered (.waitpid pid))

/-- Waiting for a process, as far as it got: interrupted waits, each followed by another one while there
are rounds for it, and the wait that was not interrupted, with its result. -/
inductive Awaited (pid : Int) (rounds : Nat) :
    List Event → Standing Surroundings (Except IoError ExitStatus) → Prop
  | waiting (cut : List Reply) (hcut : ∀ reply ∈ cut, Interrupted reply)
      (hrounds : cut.length < rounds) :
      Awaited pid rounds (waits pid cut) (.pending (.call (.waitpid pid)))
  | exhausted (cut : List Reply) (hcut : ∀ reply ∈ cut, Interrupted reply)
      (hrounds : cut.length = rounds) : Awaited pid rounds (waits pid cut) .unfinished
  | refused (cut : List Reply) {last : Reply} (hcut : ∀ reply ∈ cut, Interrupted reply)
      (hrounds : cut.length < rounds) (hfailed : last.value < 0)
      (hother : last.errno ≠ 4) :
      Awaited pid rounds (waits pid (cut ++ [last])) (.returned (.error (.errno last.errno)))
  | ended (cut : List Reply) {last : Reply} (hcut : ∀ reply ∈ cut, Interrupted reply)
      (hrounds : cut.length < rounds) (hended : 0 ≤ last.value) :
      Awaited pid rounds (waits pid (cut ++ [last])) (.returned (.ok (.ofWord last.word)))

section

variable {rounds : Nat} {pid : Int} {es : List Event} {reply : Reply} {cut : List Reply}
  {standing : Standing Surroundings (Except IoError ExitStatus)}

/-- A wait is over, unless it was interrupted. -/
theorem wait_succ (rounds : Nat) (pid : Int) : wait (rounds + 1) pid =
    .ask (.call (.waitpid pid)) fun reply =>
      if 0 ≤ reply.value then .done (.ok (.ofWord reply.word))
      else if reply.errno = 4 then wait rounds pid
      else .done (.error (.errno reply.errno)) := by
  rw [wait, Action.call_bind]
  refine congrArg (Program.ask (I := Surroundings) (.call (.waitpid pid)))
    (funext fun (reply : Reply) => ?_)
  by_cases hended : 0 ≤ reply.value
  · rw [if_pos hended, Reply.result_of_nonneg hended]
    rfl
  · rw [if_neg hended, Reply.result_of_neg (by omega)]
    simp only [IoError.isInterruption_errno, decide_eq_true_eq]
    rfl

theorem Awaited.interrupted (hreply : Interrupted reply) (h : Awaited pid rounds es standing) :
    Awaited pid (rounds + 1) (answered (.waitpid pid) reply :: es) standing := by
  have hmore {cut : List Reply} (hcut : ∀ again ∈ cut, Interrupted again) :
      ∀ again ∈ reply :: cut, Interrupted again := List.forall_mem_cons.mpr ⟨hreply, hcut⟩
  cases h with
  | waiting cut hcut hrounds => exact .waiting (reply :: cut) (hmore hcut) (Nat.succ_lt_succ hrounds)
  | exhausted cut hcut hrounds =>
    exact .exhausted (reply :: cut) (hmore hcut) (congrArg Nat.succ hrounds)
  | refused cut hcut hrounds hfailed hother =>
    exact .refused (reply :: cut) (hmore hcut) (Nat.succ_lt_succ hrounds) hfailed hother
  | ended cut hcut hrounds hended =>
    exact .ended (reply :: cut) (hmore hcut) (Nat.succ_lt_succ hrounds) hended

theorem wait_awaited (h : (wait rounds pid).Trace es standing) : Awaited pid rounds es standing := by
  induction rounds generalizing es with
  | zero =>
    obtain ⟨rfl, rfl⟩ := trace_unfinished_iff.mp h
    exact .exhausted [] nofun rfl
  | succ rounds ih =>
    rw [wait_succ] at h
    rcases trace_ask_iff.mp h with ⟨rfl, rfl⟩ | ⟨reply, rest, rfl, hrest⟩
    · exact .waiting [] nofun (Nat.succ_pos rounds)
    by_cases hended : 0 ≤ reply.value
    · rw [if_pos hended] at hrest
      obtain ⟨rfl, rfl⟩ := trace_done_iff.mp hrest
      exact .ended [] nofun (Nat.succ_pos rounds) hended
    have hfailed : reply.value < 0 := by omega
    by_cases hinterrupted : reply.errno = 4
    · rw [if_neg hended, if_pos hinterrupted] at hrest
      exact (ih hrest).interrupted ⟨hfailed, hinterrupted⟩
    · rw [if_neg hended, if_neg hinterrupted] at hrest
      obtain ⟨rfl, rfl⟩ := trace_done_iff.mp hrest
      exact .refused [] nofun (Nat.succ_pos rounds) hfailed hinterrupted

/-- An interrupted wait is made again. -/
theorem wait_through (hcut : ∀ reply ∈ cut, Interrupted reply)
    (h : (wait rounds pid).Trace es standing) :
    (wait (cut.length + rounds) pid).Trace (waits pid cut ++ es) standing := by
  induction cut with
  | nil =>
    rw [List.length_nil, Nat.zero_add]
    exact h
  | cons reply cut ih =>
    obtain ⟨⟨hfailed, hinterrupted⟩, hcut⟩ := List.forall_mem_cons.mp hcut
    have hnot : ¬ 0 ≤ reply.value := by omega
    rw [List.length_cons, Nat.succ_add, wait_succ]
    refine .ask _ ?_
    rw [if_neg hnot, if_pos hinterrupted]
    exact ih hcut

/-- The runs of a wait are just these. -/
theorem wait_trace_iff : (wait rounds pid).Trace es standing ↔ Awaited pid rounds es standing := by
  refine ⟨wait_awaited, fun h => ?_⟩
  -- With a round left after the interrupted waits, how that one goes is how the run goes on.
  have hgoes {cut : List Reply} {last : List Event} (hcut : ∀ reply ∈ cut, Interrupted reply)
      (hrounds : cut.length < rounds)
      (hlast : ∀ rounds, (wait (rounds + 1) pid).Trace last standing) :
      (wait rounds pid).Trace (waits pid cut ++ last) standing := by
    obtain ⟨more, rfl⟩ := Nat.exists_eq_add_of_lt hrounds
    exact wait_through hcut (hlast more)
  cases h with
  | waiting cut hcut hrounds =>
    rw [← List.append_nil (waits pid _)]
    exact hgoes hcut hrounds fun rounds => .pending _ _
  | exhausted cut hcut hrounds =>
    have hnone : (wait 0 pid).Trace [] .unfinished := .unfinished
    rw [← List.append_nil (waits pid _), ← hrounds]
    exact wait_through hcut hnone
  | @refused cut last hcut hrounds hfailed hother =>
    have hnot : ¬ 0 ≤ last.value := by omega
    rw [waits, List.map_append]
    refine hgoes hcut hrounds fun rounds => ?_
    rw [wait_succ]
    refine .ask _ ?_
    rw [if_neg hnot, if_neg hother]
    exact .done _
  | @ended cut last hcut hrounds hended =>
    rw [waits, List.map_append]
    refine hgoes hcut hrounds fun rounds => ?_
    rw [wait_succ]
    refine .ask _ ?_
    rw [if_pos hended]
    exact .done _

end

section

variable {rounds : Nat} {identities : Identities} {command : Command} {script : Option Int}
  {arguments : Arguments} {es : List Event} {standing : Standing Surroundings (Except Fault ExitStatus)}

/-- The launch of a command that splits, on the side of the supervisor. Only a child does the rest. -/
theorem launch_eq (h : Launch.arguments command = .ok arguments) :
    launch rounds identities command script = .ask (.call .fork) fun reply =>
      if reply.value < 0 then .done (.error (.fork (.errno reply.errno)))
      else if reply.value = 0 then
        child arguments (identities.get command.privilege) script >>= fun never => never.elim
      else .ask (.log (startedRecord command reply.value)) fun _ =>
        wait rounds reply.value >>= fun result => .done (result.mapError .wait) := by
  simp only [launch, h, Action.attempt_bind]
  refine congrArg (Program.ask (I := Surroundings) (.call .fork))
    (funext fun (reply : Reply) => ?_)
  by_cases hfailed : reply.value < 0
  · rw [if_pos hfailed, Reply.result_of_neg hfailed]
    rfl
  · rw [if_neg hfailed, Reply.result_of_nonneg (by omega)]
    rfl

/-- A launch of a command that splits, as far as it got, on the side of the supervisor: one fork and, if
there is a child by it, the record of that and the wait for just this process. -/
inductive Supervised (command : Command) (rounds : Nat) :
    List Event → Standing Surroundings (Except Fault ExitStatus) → Prop
  | forking : Supervised command rounds [] (.pending (.call .fork))
  | notForked (reply : Reply) (hfailed : reply.value < 0) :
      Supervised command rounds [answered .fork reply]
        (.returned (.error (.fork (.errno reply.errno))))
  | reporting (reply : Reply) (hforked : 0 < reply.value) :
      Supervised command rounds [answered .fork reply]
        (.pending (.log (startedRecord command reply.value)))
  | awaiting (reply : Reply) (hforked : 0 < reply.value) {es : List Event}
      {standing : Standing Surroundings (Except IoError ExitStatus)}
      (hawaited : Awaited reply.value rounds es standing) :
      Supervised command rounds
        (answered .fork reply :: ⟨.log (startedRecord command reply.value), ()⟩ :: es)
        (standing.map (·.mapError .wait))

theorem launch_trace_of_supervised (h : Launch.arguments command = .ok arguments)
    (hsupervised : Supervised command rounds es standing) :
    (launch rounds identities command script).Trace es standing := by
  rw [launch_eq h]
  cases hsupervised with
  | forking => exact .pending _ _
  | notForked reply hfailed =>
    refine .ask _ ?_
    rw [if_pos hfailed]
    exact .done _
  | reporting reply hforked =>
    refine .ask _ ?_
    rw [if_neg (by omega), if_neg (by omega)]
    exact .pending _ _
  | awaiting reply hforked hawaited =>
    refine .ask _ ?_
    rw [if_neg (by omega), if_neg (by omega)]
    refine .ask _ ?_
    exact trace_map_iff.mpr ⟨_, wait_trace_iff.mpr hawaited, rfl⟩

theorem supervised_of_launch_trace (h : Launch.arguments command = .ok arguments)
    (hparent : ∀ reply, answered .fork reply ∈ es → reply.value ≠ 0)
    (htrace : (launch rounds identities command script).Trace es standing) :
    Supervised command rounds es standing := by
  rw [launch_eq h] at htrace
  rcases trace_ask_iff.mp htrace with ⟨rfl, rfl⟩ | ⟨reply, rest, rfl, hforked⟩
  · exact .forking
  · have hvalue : reply.value ≠ 0 := hparent reply List.mem_cons_self
    by_cases hfailed : reply.value < 0
    · rw [if_pos hfailed] at hforked
      obtain ⟨rfl, rfl⟩ := trace_done_iff.mp hforked
      exact .notForked reply hfailed
    · have hpid : 0 < reply.value := by omega
      rw [if_neg hfailed, if_neg hvalue] at hforked
      rcases trace_ask_iff.mp hforked with ⟨rfl, rfl⟩ | ⟨_, es, rfl, hwaited⟩
      · exact .reporting reply hpid
      · obtain ⟨_, hwait, rfl⟩ := trace_map_iff.mp hwaited
        exact .awaiting reply hpid (wait_awaited hwait)

/-- Nothing is called if and only if the line of the command does not split. -/
theorem launch_calls_nil_iff (htrace : (launch rounds identities command script).Trace es standing) :
    calls (requests es standing) = [] ↔ ∃ cause, Arguments.split command.raw = .error cause := by
  cases hsplit : Arguments.split command.raw with
  | error cause =>
    simp only [launch, arguments_of_error hsplit] at htrace
    obtain ⟨rfl, rfl⟩ := trace_done_iff.mp htrace
    exact ⟨fun _ => ⟨cause, rfl⟩, fun _ => rfl⟩
  | ok arguments =>
    rw [launch_eq (arguments_of_split hsplit)] at htrace
    have hcalls : calls (requests es standing) ≠ [] := by
      rcases trace_ask_iff.mp htrace with ⟨rfl, rfl⟩ | ⟨reply, rest, rfl, -⟩
      · exact List.cons_ne_nil _ _
      · exact List.cons_ne_nil _ _
    refine ⟨fun hnone => absurd hnone hcalls, fun hfails => ?_⟩
    obtain ⟨cause, hcause⟩ := hfails
    cases hcause

/-- A child becomes no other program than the one that the arguments of its line name. -/
theorem execve_of_mem_calls {reply : Reply} {path : Bytes} {argv envp : List Bytes}
    (hsplit : Arguments.split command.raw = .ok arguments) (hchild : reply.value = 0)
    (htrace : (launch rounds identities command script).Trace (answered .fork reply :: es) standing)
    (hmem : .execve path argv envp ∈ calls (requests es standing)) :
    argv = arguments ∧ arguments.head? = some path := by
  obtain ⟨split, euid, fd, q, hsplit', rfl, hlife⟩ := launch_life hchild htrace
  obtain rfl : arguments = split := Except.ok.inj (hsplit.symm.trans hsplit')
  have hmade : .execve path argv envp ∈
      (plan (identities.get command.privilege) script euid fd).map Stage.call ++ execution arguments :=
    (hlife.contained (execve_notMem_plan _ script euid fd)).made_within.subset hmem
  rcases List.mem_append.mp hmade with hstage | hexecution
  · exact absurd hstage (execve_notMem_plan _ script euid fd path argv envp)
  · cases arguments with
    | nil => cases hexecution
    | cons program rest =>
      cases List.mem_singleton.mp hexecution
      exact ⟨rfl, rfl⟩

end

/-- What a command is judged by once it was launched and has ended, in the bits of the kernel's word. -/
theorem judge_word {command : Command} {arguments : Arguments}
    (hsplit : Arguments.split command.raw = .ok arguments) (word : Int32) :
    command.judge (.ofWord word.toUInt32) =
      match command.privilege with
      | .worker =>
        .ok (some (.debug s!"worker step {command.line} {(ExitStatus.ofSigned word).text}"))
      | .master =>
        if word &&& 0xFF7F = 0 then .ok none
        else .error (.masterStep command.line ((arguments.head?.map Utf8.lossy).getD "")
          (.ofSigned word)) := by
  rw [ExitStatus.ofWord_signed]
  have hname : command.programName = (arguments.head?.map Utf8.lossy).getD "" := by
    rw [Command.programName, hsplit]
    rfl
  cases hprivilege : command.privilege with
  | worker => simp only [Command.judge, hprivilege]
  | master => simp only [Command.judge, hprivilege, hname, ExitStatus.isSuccess_iff,
      ExitStatus.ofSigned_eq_success_iff]

/-- A launch as the supervisor sees it, and what becomes of the command. Where the line splits, the
runs that are not those of a child are just the ones of `Supervised`. -/
theorem launch_supervised (rounds : Nat) (identities : Identities) (command : Command)
    (script : Option Int) :
    (∀ cause, Arguments.split command.raw = .error cause →
      launch rounds identities command script = .done (.error (.malformedLine command.line cause))) ∧
    (∀ es standing, (launch rounds identities command script).Trace es standing →
      (calls (requests es standing) = [] ↔
        ∃ cause, Arguments.split command.raw = .error cause)) ∧
    ∀ arguments, Arguments.split command.raw = .ok arguments →
      (∀ es standing, (∀ reply, answered .fork reply ∈ es → reply.value ≠ 0) →
        ((launch rounds identities command script).Trace es standing ↔
          Supervised command rounds es standing)) ∧
      (∀ reply es standing path argv envp, reply.value = 0 →
        (launch rounds identities command script).Trace (answered .fork reply :: es) standing →
        .execve path argv envp ∈ calls (requests es standing) →
          argv = arguments ∧ arguments.head? = some path) ∧
      ∀ word : Int32, ExitStatus.ofWord word.toUInt32 = .ofSigned word ∧
        command.judge (.ofWord word.toUInt32) =
          match command.privilege with
          | .worker =>
            .ok (some (.debug s!"worker step {command.line} {(ExitStatus.ofSigned word).text}"))
          | .master =>
            if word &&& 0xFF7F = 0 then .ok none
            else .error (.masterStep command.line ((arguments.head?.map Utf8.lossy).getD "")
              (.ofSigned word)) := by
  refine ⟨fun cause hsplit => ?_, fun es standing => launch_calls_nil_iff,
    fun arguments hsplit => ⟨fun es standing hparent => ?_, ?_, fun word => ?_⟩⟩
  · simp only [launch, arguments_of_error hsplit]
    rfl
  · have harguments := arguments_of_split hsplit
    exact ⟨supervised_of_launch_trace harguments hparent, launch_trace_of_supervised harguments⟩
  · exact fun reply es standing path argv envp => execve_of_mem_calls hsplit
  · exact ⟨ExitStatus.ofWord_signed word, judge_word hsplit word⟩

/-- A wait that was interrupted once, and a process that ended with a negative word. -/
theorem launch_supervised_interrupted :
    let command := Command.parse 1 (Bytes.ofString "x")
    (launch 2 ⟨.master, .worker⟩ command none).Trace
      [answered .fork ⟨7, 0, 0⟩, ⟨.log (startedRecord command 7), ()⟩,
       answered (.waitpid 7) ⟨-1, 4, 0⟩,
       answered (.waitpid 7) ⟨7, 0, (-256 : Int32).toUInt32⟩]
      (.returned (.ok (.code 255))) ∧
    command.judge (.code 255) =
      .error (.masterStep 1 (Utf8.lossy (Bytes.ofString "x")) (.code 255)) := by
  intro command
  obtain ⟨-, -, hsplit⟩ := launch_supervised 2 ⟨.master, .worker⟩ command none
  obtain ⟨hruns, -, hends⟩ := hsplit [Bytes.ofString "x"] rfl
  have hstatus : ExitStatus.ofWord (-256 : Int32).toUInt32 = .code 255 := by decide
  have hinterrupted : ∀ reply ∈ [(⟨-1, 4, 0⟩ : Reply)], Interrupted reply := by
    simp [Interrupted]
  have hawaited : Awaited 7 2
      (waits 7 ([⟨-1, 4, 0⟩] ++ [⟨7, 0, (-256 : Int32).toUInt32⟩]))
      (.returned (.ok (.ofWord (-256 : Int32).toUInt32))) :=
    .ended _ hinterrupted (by decide) (by decide)
  constructor
  · rw [← hstatus]
    refine (hruns _ _ (by simp [answered])).mpr ?_
    exact .awaiting ⟨7, 0, 0⟩ (by decide) hawaited
  · obtain ⟨hsigned, hjudge⟩ := hends (-256)
    rw [hstatus] at hsigned hjudge
    rw [hjudge, ← hsigned]
    rfl

end Launch

end GuestInit
