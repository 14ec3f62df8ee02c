/-
A chain hands a command on exactly once, in order, to the right instance.

What a chain does is seen in its handovers: each names the transport by its place in
the chain and says what was handed over and what came of it. The transports that
serve an instance have places too (`Chain.servingAt`), and the two lists are all that
the theorem speaks of. The handovers are the serving places from the first on; only
the last of them can be a success; and if none is one, no serving place is left out.

One call of a transport either ends the sending or makes it go on with the rest, and
`FailsOver` has a rule for each. The run is a derivation by these rules
(`sendFirst_noting`), and everything else is read off derivations.
-/
import MonitorControl.Proofs.Delivery.Journal

set_option autoImplicit false

namespace MonitorControl

open Text

/-! ## Who serves an instance -/

/-- **A transport serves an instance** if it is bound to nothing, to `none` or to that instance; if
the instance is not known, every transport does. -/
inductive Serves : Option Text → Option Text → Prop where
  | unbound (monitor : Option Text) : Serves none monitor
  | unknown (bound : Option Text) : Serves bound none
  | boundToNone {bound : Text} (monitor : Text) (hbound : bound.sameLetters "none" = true) :
    Serves (some bound) (some monitor)
  | own {bound monitor : Text} (hbound : bound.sameLetters monitor = true) :
    Serves (some bound) (some monitor)

theorem serves_iff {bound monitor : Option Text} :
    serves bound monitor = true ↔ Serves bound monitor := by
  cases bound with
  | none => exact iff_of_true rfl (.unbound monitor)
  | some b =>
    cases monitor with
    | none => exact iff_of_true rfl (.unknown (some b))
    | some name =>
      rw [serves, Bool.or_eq_true]
      constructor
      · rintro (hnone | hown)
        · exact .boundToNone name hnone
        · exact .own hown
      · rintro (_ | _ | hnone | hown)
        · exact .inl ‹_›
        · exact .inr ‹_›

instance (bound monitor : Option Text) : Decidable (Serves bound monitor) :=
  decidable_of_iff _ serves_iff

/-- A transport that is bound to another instance does not serve one that is known. -/
theorem Serves.sameLetters {bound monitor : Text} (h : Serves (some bound) (some monitor)) :
    bound.sameLetters "none" = true ∨ bound.sameLetters monitor = true := by
  cases h with
  | boundToNone _ hbound => exact .inl hbound
  | own hbound => exact .inr hbound

namespace Chain

/-- **The places in a chain of the transports that serve an instance**, in order. -/
def servingAt {m : Type → Type} (chain : Chain m) (monitor : Option Text) : List Nat :=
  (chain.transports.zipIdx.filter fun (t, _) => decide (Serves t.bound monitor)).map Prod.snd

end Chain

/-! ## Handovers -/

/-- **A handover**: the place of the transport in its chain, what it was called with, and what came
of it. -/
structure Handover where
  position : Nat
  command : Command
  target : Target
  monitor : Option Text
  outcome : Except TransportError Unit

/-- The transport took the command. -/
def Handover.Succeeds (call : Handover) : Prop := call.outcome = .ok ()

namespace Chain

/-- The chain with every transport noting its handovers. -/
def noting {m : Type → Type} [Monad m] (chain : Chain m) : Chain (StateT (List Handover) m) :=
  ⟨chain.transports.zipIdx.map fun (t, position) => t.noting (Handover.mk position)⟩

/-- **The handovers of a run**, from a given state of the outside on. -/
def handovers {σ : Type} (chain : Chain (StateM σ)) (command : Command) (target : Target)
    (monitor : Option Text) (s : σ) : List Handover :=
  (chain.noting.send command target monitor [] s).1.2

variable {command : Command} {target : Target} {monitor : Option Text}

/-! ## How sending goes on -/

/-- The error of a chain after that many failures, when nobody is left. -/
def exhausted : Nat → TransportError
  | 0 => .noTransport
  | failed + 1 => .allFailed (failed + 1)

/-- **Failover over places**, after a number of failures: a place that succeeds is the last and
settles the answer, one that fails is followed by the rest, and if nobody is left the answer counts
the failures. -/
inductive FailsOver (command : Command) (target : Target) (monitor : Option Text) :
    Nat → List Nat → List Handover → Except TransportError Unit → Prop where
  | nil (failed : Nat) :
    FailsOver command target monitor failed [] [] (.error (exhausted failed))
  | success (failed position : Nat) (rest : List Nat) :
    FailsOver command target monitor failed (position :: rest)
      [⟨position, command, target, monitor, .ok ()⟩] (.ok ())
  | failure {failed : Nat} (position : Nat) (cause : TransportError) {rest : List Nat}
    {calls : List Handover} {answer : Except TransportError Unit}
    (hrest : FailsOver command target monitor (failed + 1) rest calls answer) :
    FailsOver command target monitor failed (position :: rest)
      (⟨position, command, target, monitor, .error cause⟩ :: calls) answer

namespace FailsOver

variable {failed : Nat} {positions : List Nat} {calls : List Handover}
  {answer : Except TransportError Unit}

theorem handed (h : FailsOver command target monitor failed positions calls answer) :
    ∀ call ∈ calls, call.command = command ∧ call.target = target ∧ call.monitor = monitor := by
  induction h with
  | nil => exact fun call hcall => absurd hcall List.not_mem_nil
  | success failed position rest =>
    intro call hcall
    obtain rfl := List.mem_singleton.1 hcall
    exact ⟨rfl, rfl, rfl⟩
  | failure position cause _ ih =>
    intro call hcall
    rcases List.mem_cons.1 hcall with rfl | hcall
    · exact ⟨rfl, rfl, rfl⟩
    · exact ih call hcall

theorem map_position_prefix (h : FailsOver command target monitor failed positions calls answer) :
    calls.map Handover.position <+: positions := by
  induction h with
  | nil => exact List.prefix_refl []
  | success failed position rest => exact List.prefix_append [position] rest
  | failure position cause _ ih => exact List.cons_prefix_cons.2 ⟨rfl, ih⟩

/-- Nothing is handed over after a success. -/
theorem not_succeeds_of_mem_dropLast
    (h : FailsOver command target monitor failed positions calls answer) :
    ∀ call ∈ calls.dropLast, ¬ call.Succeeds := by
  induction h with
  | nil => exact fun call hcall => absurd hcall List.not_mem_nil
  | success => exact fun call hcall => absurd hcall List.not_mem_nil
  | @failure failed position cause rest calls answer _ ih =>
    intro call hcall
    -- if nothing follows the failure, it is the last call itself
    by_cases hnil : calls = []
    · rw [hnil] at hcall
      exact absurd hcall List.not_mem_nil
    rw [List.dropLast_cons_of_ne_nil hnil, List.mem_cons] at hcall
    rcases hcall with rfl | hcall
    · exact nofun
    · exact ih call hcall

theorem answer_eq_ok_iff (h : FailsOver command target monitor failed positions calls answer) :
    answer = .ok () ↔ ∃ call ∈ calls, call.Succeeds := by
  induction h with
  | nil => exact iff_of_false nofun (fun ⟨call, hcall, _⟩ => absurd hcall List.not_mem_nil)
  | success => exact iff_of_true rfl ⟨_, List.mem_cons_self, rfl⟩
  | failure position cause _ ih =>
    rw [ih]
    constructor
    · rintro ⟨call, hcall, hsucceeds⟩
      exact ⟨call, List.mem_cons_of_mem _ hcall, hsucceeds⟩
    · rintro ⟨call, hcall, hsucceeds⟩
      rcases List.mem_cons.1 hcall with rfl | hcall
      · -- the first call of this run is the failure
        exact absurd hsucceeds nofun
      · exact ⟨call, hcall, hsucceeds⟩

/-- **Without a success nobody is left out**, and the answer counts all of them. -/
theorem of_answer_ne_ok (h : FailsOver command target monitor failed positions calls answer)
    (hanswer : answer ≠ .ok ()) :
    calls.map Handover.position = positions ∧
      answer = .error (exhausted (failed + positions.length)) := by
  induction h with
  | nil => exact ⟨rfl, rfl⟩
  | success => exact absurd rfl hanswer
  | @failure failed position cause rest calls answer _ ih =>
    obtain ⟨hcalls, hcount⟩ := ih hanswer
    refine ⟨?_, ?_⟩
    · rw [List.map_cons, hcalls]
    · rw [hcount, List.length_cons, Nat.add_assoc, Nat.add_comm 1]

end FailsOver

/-! ## The run -/

variable {σ : Type}

theorem sendFirst_cons {m : Type → Type} [Monad m] (failed : Nat) (t : Transport m)
    (rest : List (Transport m)) :
    sendFirst command target monitor failed (t :: rest) =
      t.send command target monitor >>= fun
        | .ok () => return .ok ()
        | .error _ => sendFirst command target monitor (failed + 1) rest := by
  cases failed <;> rfl

/-- **Sending through noted transports fails over their places.** -/
theorem sendFirst_noting (entries : List (Transport (StateM σ) × Nat)) (failed : Nat)
    (journal : List Handover) (s : σ) :
    ∃ calls answer, FailsOver command target monitor failed (entries.map Prod.snd) calls answer ∧
      (sendFirst command target monitor failed
        (entries.map fun (t, position) => t.noting (Handover.mk position)) journal s).1 =
          (answer, journal ++ calls) := by
  induction entries generalizing failed journal s with
  | nil =>
    refine ⟨[], _, .nil failed, ?_⟩
    rw [List.append_nil]
    cases failed <;> rfl
  | cons entry entries ih =>
    obtain ⟨t, position⟩ := entry
    rw [List.map_cons, List.map_cons, sendFirst_cons]
    -- what the transport makes of the command decides whether the rest is tried
    show ∃ calls answer, FailsOver command target monitor failed (position :: _) calls answer ∧
      ((noted (Handover.mk position command target monitor) (t.send command target monitor) >>= _)
        journal s).1 = _
    simp only [bind_apply, noted_apply]
    cases (t.send command target monitor s).1 with
    | ok => exact ⟨_, _, .success failed position _, rfl⟩
    | error cause =>
      -- the rest is tried from the state in which the failure left the outside
      obtain ⟨calls, answer, hrest, hrun⟩ := ih (failed + 1)
        (journal ++ [⟨position, command, target, monitor, .error cause⟩])
        (t.send command target monitor s).2
      refine ⟨_, answer, .failure position cause hrest, ?_⟩
      rw [hrun, List.append_assoc, List.singleton_append]

/-! ## A chain and its places -/

section

variable {m : Type → Type}

/-- The transports of a chain that serve an instance, with their places. -/
def servers (chain : Chain m) (monitor : Option Text) : List (Transport m × Nat) :=
  chain.transports.zipIdx.filter fun (t, _) => serves t.bound monitor

theorem map_snd_servers (chain : Chain m) (monitor : Option Text) :
    (chain.servers monitor).map Prod.snd = chain.servingAt monitor := by
  have hsame : ∀ entry ∈ chain.transports.zipIdx,
      serves entry.1.bound monitor = decide (Serves entry.1.bound monitor) :=
    fun entry _ => by rw [Bool.eq_iff_iff, decide_eq_true_iff, serves_iff]
  rw [servers, servingAt, List.filter_congr hsame]

theorem map_fst_servers (chain : Chain m) (monitor : Option Text) :
    (chain.servers monitor).map Prod.fst = chain.serving monitor := by
  have hfst : chain.transports.zipIdx.map Prod.fst = chain.transports := List.zipIdx_map_fst 0 _
  rw [serving]
  conv => rhs; rw [← hfst, List.filter_map]
  rfl

theorem serving_noting [Monad m] (chain : Chain m) (monitor : Option Text) :
    chain.noting.serving monitor =
      (chain.servers monitor).map fun (t, position) => t.noting (Handover.mk position) := by
  rw [serving, noting, List.filter_map]
  rfl

/-- **A place serves an instance** if the transport there does. -/
theorem mem_servingAt {chain : Chain m} {position : Nat} :
    position ∈ chain.servingAt monitor ↔
      ∃ t, chain.transports[position]? = some t ∧ Serves t.bound monitor := by
  simp only [servingAt, List.mem_map, List.mem_filter, decide_eq_true_eq, Prod.exists,
    List.mem_zipIdx_iff_getElem?]
  constructor
  · rintro ⟨t, position', ⟨hat, hserves⟩, rfl⟩
    exact ⟨t, hat, hserves⟩
  · rintro ⟨t, hat, hserves⟩
    exact ⟨t, position, ⟨hat, hserves⟩, rfl⟩

theorem servingAt_eq_nil_iff {chain : Chain m} :
    chain.servingAt monitor = [] ↔ ∀ t ∈ chain.transports, ¬ Serves t.bound monitor := by
  rw [List.eq_nil_iff_forall_not_mem]
  constructor
  · intro hnone t ht hserves
    obtain ⟨position, hat⟩ := List.mem_iff_getElem?.1 ht
    exact hnone position (mem_servingAt.2 ⟨t, hat, hserves⟩)
  · intro hnone position hposition
    obtain ⟨t, hat, hserves⟩ := mem_servingAt.1 hposition
    exact hnone t (List.mem_of_getElem? hat) hserves

theorem watches_sendFirst [Monad m] [LawfulMonad m] (entries : List (Transport m × Nat))
    (failed : Nat) :
    Watches
      (sendFirst command target monitor failed
        (entries.map fun (t, position) => t.noting (Handover.mk position)))
      (sendFirst command target monitor failed (entries.map Prod.fst)) := by
  induction entries generalizing failed with
  | nil => cases failed <;> exact .pure _
  | cons entry entries ih =>
    rw [List.map_cons, List.map_cons, sendFirst_cons, sendFirst_cons]
    refine .bind (.noted _ _) fun outcome => ?_
    cases outcome with
    | ok => exact .pure _
    | error cause => exact ih (failed + 1)

/-- **A chain that notes its handovers does what the chain does.** -/
theorem watches_send [Monad m] [LawfulMonad m] (chain : Chain m) :
    Watches (chain.noting.send command target monitor) (chain.send command target monitor) := by
  rw [send, send, serving_noting, ← map_fst_servers]
  exact watches_sendFirst _ 0

end

/-! ## Main result -/

/-- **What a chain does with a command**, in terms of its handovers and its answer. -/
structure Delivers {m : Type → Type} (chain : Chain m) (command : Command) (target : Target)
    (monitor : Option Text) (calls : List Handover) (answer : Except TransportError Unit) :
    Prop where
  /-- Every call hands over what was to be sent. -/
  handed : ∀ call ∈ calls,
    call.command = command ∧ call.target = target ∧ call.monitor = monitor
  /-- The transports that serve the instance are called in order, from the first on, once each. -/
  in_order : calls.map Handover.position <+: chain.servingAt monitor
  /-- Nothing is called after a success. -/
  stops : ∀ call ∈ calls.dropLast, ¬ call.Succeeds
  /-- Sending succeeds exactly if a transport does. -/
  ok_iff : answer = .ok () ↔ ∃ call ∈ calls, call.Succeeds
  /-- Without a success every transport that serves the instance was called. -/
  tries_all : (∀ call ∈ calls, ¬ call.Succeeds) →
    calls.map Handover.position = chain.servingAt monitor
  /-- That nobody serves the instance is an answer of its own. -/
  noTransport_iff : answer = .error .noTransport ↔
    ∀ t ∈ chain.transports, ¬ Serves t.bound monitor
  /-- Every other answer counts the transports that serve the instance, all of which failed. -/
  allFailed_iff : ∀ attempts, answer = .error (.allFailed attempts) ↔
    (∃ t ∈ chain.transports, Serves t.bound monitor) ∧ (∀ call ∈ calls, ¬ call.Succeeds) ∧
      attempts = (chain.servingAt monitor).length
  /-- No command reaches a transport that is bound to another known instance. -/
  routed : ∀ call ∈ calls, ∃ t, chain.transports[call.position]? = some t ∧
    ∀ bound ∈ t.bound, ∀ name ∈ monitor,
      bound.sameLetters "none" = true ∨ bound.sameLetters name = true

theorem FailsOver.delivers {m : Type → Type} {chain : Chain m} {calls : List Handover}
    {answer : Except TransportError Unit}
    (h : FailsOver command target monitor 0 (chain.servingAt monitor) calls answer) :
    chain.Delivers command target monitor calls answer where
  handed := h.handed
  in_order := h.map_position_prefix
  stops := h.not_succeeds_of_mem_dropLast
  ok_iff := h.answer_eq_ok_iff
  tries_all := by
    intro hfail
    refine (h.of_answer_ne_ok ?_).1
    rw [Ne, h.answer_eq_ok_iff]
    rintro ⟨call, hcall, hsucceeds⟩
    exact hfail call hcall hsucceeds
  noTransport_iff := by
    rw [← servingAt_eq_nil_iff]
    by_cases hok : answer = .ok ()
    · -- a success is one of a transport that serves the instance
      obtain ⟨call, hcall, -⟩ := h.answer_eq_ok_iff.1 hok
      rw [hok]
      refine iff_of_false nofun fun hnil => ?_
      have hmem := h.map_position_prefix.subset (List.mem_map_of_mem hcall)
      rw [hnil] at hmem
      exact absurd hmem List.not_mem_nil
    · rw [(h.of_answer_ne_ok hok).2, Nat.zero_add, ← List.length_eq_zero_iff]
      cases (chain.servingAt monitor).length <;> simp [exhausted]
  allFailed_iff := by
    intro attempts
    have hsome : (∃ t ∈ chain.transports, Serves t.bound monitor) ↔
        (chain.servingAt monitor).length ≠ 0 := by
      rw [Ne, List.length_eq_zero_iff, servingAt_eq_nil_iff]
      simp
    have hfail : (∀ call ∈ calls, ¬ call.Succeeds) ↔ answer ≠ .ok () := by
      rw [Ne, h.answer_eq_ok_iff]
      simp
    rw [hsome, hfail]
    by_cases hok : answer = .ok ()
    · rw [hok]
      exact iff_of_false nofun fun hno => hno.2.1 rfl
    · rw [(h.of_answer_ne_ok hok).2, Nat.zero_add]
      cases (chain.servingAt monitor).length <;> simp [exhausted, eq_comm]
  routed := by
    intro call hcall
    have hmem := h.map_position_prefix.subset (List.mem_map_of_mem hcall)
    obtain ⟨t, hat, hserves⟩ := mem_servingAt.1 hmem
    refine ⟨t, hat, fun bound hbound name hname => ?_⟩
    rw [Option.mem_def] at hbound hname
    rw [hbound, hname] at hserves
    exact hserves.sameLetters

/-- **A chain delivers once, in order and to the right instance**, whatever its transports make of
the command and whatever state the outside is in; and its handovers are those of the chain that
nobody watches. -/
theorem send_delivers (chain : Chain (StateM σ)) (command : Command) (target : Target)
    (monitor : Option Text) (s : σ) :
    chain.Delivers command target monitor (chain.handovers command target monitor s)
        (chain.send command target monitor s).1 ∧
      chain.noting.send command target monitor [] s =
        (((chain.send command target monitor s).1, chain.handovers command target monitor s),
          (chain.send command target monitor s).2) := by
  have hwatches : Watches (chain.noting.send command target monitor)
      (chain.send command target monitor) := watches_send chain
  have hwatched := hwatches.run_eq [] s
  refine ⟨?_, hwatched⟩
  obtain ⟨calls, answer, hrun, heq⟩ : ∃ calls answer,
      FailsOver command target monitor 0 ((chain.servers monitor).map Prod.snd) calls answer ∧
        (sendFirst command target monitor 0
          ((chain.servers monitor).map fun (t, position) => t.noting (Handover.mk position)) []
            s).1 = (answer, [] ++ calls) :=
    sendFirst_noting (chain.servers monitor) 0 [] s
  rw [List.nil_append, ← serving_noting] at heq
  have hsend : (chain.noting.send command target monitor [] s).1 = (answer, calls) := heq
  rw [map_snd_servers] at hrun
  have hcalls : chain.handovers command target monitor s = calls := congrArg Prod.snd hsend
  have hanswer : (chain.send command target monitor s).1 = answer := by
    rw [hwatched] at hsend
    exact congrArg Prod.fst hsend
  rw [hcalls, hanswer]
  exact hrun.delivers

end Chain

end MonitorControl
