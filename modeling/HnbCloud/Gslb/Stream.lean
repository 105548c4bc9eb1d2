import HnbCloud.Gslb.Snapshot

set_option autoImplicit false

/-! # The command stream

`Start` of `gslb-controller/internal/consumer/consumer.go`: a durable consumer gets the commands from
the stream of the domain events. A command that is not acknowledged within a minute is delivered
again, also while it is still being handled, and five times in all. The callback acknowledges a command
when `HandleCommand` has returned, whatever it returns: a command whose store did not answer is gone
like one that was carried out.

A command is gone only after its request is final if nothing but the execution of its plan fails. This
module says what "nothing" is: the command is one that can be decoded, the store carries out every call
of its handlers, no handler finds that another one has just dispatched the request, no decision is
written over another, and the last delivery is not lost. -/

namespace HnbCloud.Gslb

open Messaging Iam List Program Option Traffic Bool ApiOutcome

/-! ## The stream -/

/-- `MaxDeliver` of the consumer. -/
def maxDeliver : Nat := 5

structure StreamMessage where
  /-- The request that it is the command of. -/
  requestId : String
  data : Json
  deliveries : Nat
  /-- It has been acknowledged, or the stream has dropped it. -/
  gone : Bool

/-- The delivery of a message. It is handled by the command with the same number. -/
structure Delivery where
  message : Nat
  /-- The process has neither acknowledged the message nor stopped. -/
  active : Bool

/-- The API server and the controller with the stream between them. -/
structure StreamWorld where
  world : TrafficWorld
  messages : List StreamMessage
  deliveries : List Delivery

open StreamWorld

/-- What happens next. -/
inductive StreamEvent where
  /-- The command of a request is published, in whatever form. -/
  | publish (requestId : String) (data : Json)
  | deliver (message : Nat)
  /-- `HandleCommand` performs its next operation. -/
  | handle (delivery : Nat) (n : ControllerNature)
  /-- `HandleCommand` has returned, and the message is acknowledged. -/
  | ack (delivery : Nat)
  /-- The process stops, or its acknowledgement is lost. -/
  | crash (delivery : Nat)
  /-- The message is thirty days old, or the stream is full. -/
  | expire (message : Nat)
  /-- Anything that has nothing to do with commands. -/
  | other (event : TrafficEvent)

namespace StreamWorld

variable (w : StreamWorld)

def deliver (sha : String → String) (i : Nat) : StreamWorld :=
  match w.messages[i]? with
  | none => w
  | some message =>
    if message.gone = false ∧ message.deliveries < maxDeliver then
      { world := w.world.step sha (.deliver message.data)
        messages := w.messages.set i { message with deliveries := message.deliveries + 1 }
        deliveries := w.deliveries ++ [{ message := i, active := true }] }
    else w

def delivered (delivery : Nat) : Option StreamMessage :=
  (w.deliveries[delivery]?).bind fun d => if d.active then w.messages[d.message]? else none

def drop (i : Nat) : List StreamMessage :=
  w.messages.modify i fun message => { message with gone := true }

/-- The delivery is at work no more. -/
def close (delivery : Nat) : List Delivery :=
  w.deliveries.modify delivery fun d => { d with active := false }

def ack (delivery : Nat) : StreamWorld :=
  match w.deliveries[delivery]?, w.world.commands[delivery]? with
  | some d, some (_, .done _) =>
    if d.active then { w with messages := w.drop d.message, deliveries := w.close delivery } else w
  | _, _ => w

def step (sha : String → String) : StreamEvent → StreamWorld
  | .publish requestId data =>
    { w with messages := w.messages ++
        [{ requestId := requestId, data := data, deliveries := 0, gone := false }] }
  | .deliver i => w.deliver sha i
  | .handle delivery n =>
    if (w.delivered delivery).isSome then { w with world := w.world.step sha (.handle delivery n) }
    else w
  | .ack delivery => w.ack delivery
  | .crash delivery => { w with deliveries := w.close delivery }
  | .expire i => { w with messages := w.drop i }
  | .other (.deliver _) => w
  | .other (.handle ..) => w
  | .other event => { w with world := w.world.step sha event }

/-- Nothing has been published. -/
def start (requests : Table SwitchRequest String SwitchRequest.id) (outbox : Outbox) (now : Int) :
    StreamWorld where
  world := .start requests outbox now
  messages := []
  deliveries := []

/-- No delivery of the message is at work, and there will be none: it is gone, or was delivered as
    often as it can be. -/
def removed (i : Nat) (message : StreamMessage) : Bool :=
  message.gone
    || (decide (maxDeliver ≤ message.deliveries)
      && w.deliveries.all fun d => d.message != i || !d.active)

end StreamWorld

def streamMachine (sha : String → String) : Machine StreamWorld StreamEvent Unit where
  step w event := (w.step sha event, ())

/-! ## What must not go wrong -/

def Traffic.settled (s : Traffic) (id : String) : Bool := (s.status id).any RequestStatus.isFinal

/-- The document is a command that `HandleCommand` can decode, and names the request. -/
def namesRequest (id : String) (data : Json) : Bool :=
  match CommandPayload.unmarshal data with
  | none => false
  | some payload => payload.requestId == id && id != "" && payload.plan.isSome

/-- The store carries out the call of a handler, and a transition finds the request where it expects it
    or in a final state. -/
def ControllerOp.served (id : String) (s : Traffic) (n : ControllerNature) : ControllerOp → Bool
  | getRequest _ => decide (n.outcome = .ok)
  | transition _ source _ _ =>
    decide (n.outcome = .ok)
      && (s.status id).any fun status => decide (status ∈ source) || status.isFinal
  | _ => true

/-- What must hold of an event for the command of the request. -/
def StreamWorld.sound (id : String) (w : StreamWorld) : StreamEvent → Bool
  | .publish requestId data =>
    requestId != id
      || ((w.world.traffic.status id).any RequestStatus.isGranted && namesRequest id data)
  | .handle delivery n =>
    match w.delivered delivery, w.world.commands[delivery]? with
    | some message, some (_, .call op _) =>
      message.requestId != id || op.served id w.world.traffic n
    | _, _ => true
  | .crash delivery =>
    match w.delivered delivery with
    | some message =>
      message.requestId != id || decide (message.deliveries < maxDeliver)
        || w.world.traffic.settled id
    | none => true
  | .expire i =>
    match w.messages[i]? with
    | some message => message.requestId != id || w.world.traffic.settled id
    | none => true
  | .other event => decide (w.world.Waits id event)
  | .deliver _ | .ack _ => true

/-! ## How far a request is -/

/-- Approved, dispatched, final. -/
def RequestStatus.progress : RequestStatus → Nat
  | approved => 1
  | dispatched => 2
  | succeeded | failed => 3
  | _ => 0

def Traffic.progress (id : String) (s : Traffic) : Nat :=
  ((s.status id).map RequestStatus.progress).getD 0

section Progress

variable {id : String} {s s' : Traffic}

theorem Traffic.progress_of_status {status : RequestStatus} (h : s.status id = some status) :
    s.progress id = status.progress := by
  rw [progress, h]
  rfl

theorem Traffic.Effect.progress_le (h : Traffic.Effect id s s') : s.progress id ≤ s'.progress id := by
  cases h with
  | kept hstatus => rw [progress, progress, hstatus]
  | decided _ hwaiting =>
    rw [progress_of_status hwaiting]
    exact Nat.zero_le _
  | moved _ _ hbefore hstatus hlegal =>
    have hmoves : ∀ move ∈ RequestStatus.moves, move.1.progress ≤ move.2.progress := by decide
    rw [progress_of_status hbefore, progress_of_status hstatus]
    exact hmoves _ hlegal

theorem Traffic.exists_status_of_progress (h : 1 ≤ s.progress id) :
    ∃ row, s.requests.get? id = some row ∧ s.progress id = row.status.progress := by
  cases hrow : s.requests.get? id with
  | none =>
    rw [progress, status, hrow] at h
    simp at h
  | some row => exact ⟨row, rfl, by rw [progress, status, hrow]; rfl⟩

theorem Traffic.progress_le_of_effect (h : (s.requests.get? id).isSome → Traffic.Effect id s s') :
    s.progress id ≤ s'.progress id := by
  rcases Nat.eq_zero_or_pos (s.progress id) with hzero | hpos
  · omega
  · obtain ⟨row, hrow, -⟩ := exists_status_of_progress hpos
    exact (h (by rw [hrow]; rfl)).progress_le

theorem Traffic.granted_iff_progress : s.Granted id ↔ 1 ≤ s.progress id := by
  have hstatus : ∀ status : RequestStatus, status.isGranted = true ↔ 1 ≤ status.progress := by
    intro status
    cases status <;> decide
  rw [Traffic.Granted, progress]
  cases s.status id with
  | none => simp
  | some status => simpa using hstatus status

/-- The last stage is a final state, and no other state of an approved request is. -/
theorem Traffic.settled_iff_progress (h : 1 ≤ s.progress id) :
    s.settled id = true ↔ 3 ≤ s.progress id := by
  have hstatus : ∀ status : RequestStatus, 1 ≤ status.progress →
      (status.isFinal = true ↔ 3 ≤ status.progress) := by
    intro status
    cases status <;> decide
  obtain ⟨row, hrow, hprogress⟩ := exists_status_of_progress h
  rw [hprogress] at h ⊢
  rw [settled, status, hrow]
  exact hstatus row.status h

end Progress

/-! ## One handler -/

/-- Whatever the others do, the handler ends only when the request is final, as long as the store
    serves it. -/
abbrev Settles (id : String) (p : ControllerProgram) (s : Traffic) : Prop :=
  p.EnsuresUnder (controllerStore id) (fun s op n => op.served id s n = true)
    (fun s s' => s.progress id ≤ s'.progress id) (fun _ s => 3 ≤ s.progress id) s

section Settles

variable {id : String} {s : Traffic} {p : ControllerProgram}

theorem Settles.stable {s' : Traffic} (h : Settles id p s)
    (hs : s.progress id ≤ s'.progress id) : Settles id p s' :=
  Program.EnsuresUnder.stable (R := fun s s' : Traffic => s.progress id ≤ s'.progress id)
    Nat.le_trans h hs

/-- Once the request is final, it does not matter what the handler does. -/
theorem settles_of_final (hmoves : p.Moves) (h : 3 ≤ s.progress id) :
    Settles id p s := by
  induction p generalizing s with
  | done => exact fun s' hs => Nat.le_trans h hs
  | call op next ih =>
    refine ensuresUnder_call fun s' hs n _ answer _ => ?_
    have hfinal : 3 ≤ s'.progress id := Nat.le_trans h hs
    have hgranted : s'.Granted id := granted_iff_progress.2 (by omega)
    have hpermitted : op.Permitted id s' := by
      cases op with
      | executePlan => exact hgranted
      | _ => trivial
    have heffect : Traffic.Effect id s' ((controllerStore id).perform s' op n).1 :=
      controllerStore_effect n (hmoves op (.here op next)) fun _ => hpermitted
    exact ih answer (fun op' hcalls => hmoves op' (.later answer hcalls))
      (Nat.le_trans hfinal heffect.progress_le)

variable {source : List RequestStatus} {target : RequestStatus}

/-- A transition that the store serves is made, or is refused as the request is final. -/
theorem served_transition {errorMsg : String} {n : ControllerNature}
    (h : (ControllerOp.transition id source target errorMsg).served id s n = true) :
    (((controllerStore id).perform s (.transition id source target errorMsg) n).2 = .ok ()
      ∧ ((controllerStore id).perform s (.transition id source target errorMsg) n).1.status id
        = some target)
    ∨ (((controllerStore id).perform s (.transition id source target errorMsg) n).1 = s
      ∧ s.settled id = true) := by
  simp only [ControllerOp.served, and_eq_true, decide_eq_true_eq] at h
  obtain ⟨houtcome, hstatus⟩ := h
  have hperform : (controllerStore id).perform s (.transition id source target errorMsg) n
      = ApiOutcome.ok.commit s (s.transition id source target errorMsg) := by
    rw [← houtcome]
    rfl
  rw [hperform]
  cases hrow : s.requests.get? id with
  | none =>
    rw [status, hrow] at hstatus
    simp at hstatus
  | some row =>
    have hrowStatus : s.status id = some row.status := by rw [status, hrow]; rfl
    rw [hrowStatus, any_some, or_eq_true, decide_eq_true_eq] at hstatus
    by_cases hsource : row.status ∈ source
    · refine .inl ⟨?_, ?_⟩
      · simp only [Traffic.transition, hrow, if_pos hsource, commit]
      · simp only [Traffic.transition, hrow, if_pos hsource, commit, status,
          Table.get?_update_self _ _ _ _ hrow]
        rfl
    · refine .inr ⟨?_, ?_⟩
      · simp only [Traffic.transition, hrow, if_neg hsource, commit]
      · rw [settled, hrowStatus]
        exact hstatus.resolve_left hsource

theorem settles_transition {errorMsg : String}
    {next : Except String Unit → ControllerProgram} (htarget : target.progress = 3)
    (hmoves : ∀ answer, (next answer).Moves) (h : 1 ≤ s.progress id) :
    Settles id (.call (.transition id source target errorMsg) next) s := by
  refine ensuresUnder_call fun s' hs n hserved answer _ => settles_of_final (hmoves answer) ?_
  rcases served_transition hserved with ⟨-, hstatus⟩ | ⟨hsame, hsettled⟩
  · rw [progress_of_status hstatus, htarget]
  · rw [hsame]
    exact (settled_iff_progress (Nat.le_trans h hs)).1 hsettled

theorem settles_executeCommand (request : SwitchRequest) (planData : Json) (h : 1 ≤ s.progress id) :
    Settles id (executeCommand request id planData) s := by
  have hmoves := moves_executeCommand request id planData
  unfold executeCommand at hmoves ⊢
  split
  · exact settles_transition rfl (fun _ => moves_done _) h
  next plan hplan =>
  simp only [hplan] at hmoves
  refine ensuresUnder_call fun s' hs n _ answer _ => ?_
  have hexecuting : 1 ≤ ((controllerStore id).perform s' (.executePlan plan) n).1.progress id :=
    Nat.le_trans h hs
  cases answer with
  | error err =>
    exact settles_transition rfl
      (fun answer op hcalls => hmoves op (.later (.error err) (.later answer hcalls))) hexecuting
  | ok =>
    exact settles_transition rfl
      (fun answer op hcalls => hmoves op (.later (.ok ()) (.later answer hcalls))) hexecuting

theorem commandRequestId_of_names {data : Json} (h : namesRequest id data = true) :
    commandRequestId data = id := by
  unfold namesRequest at h
  split at h
  · simp at h
  next payload hpayload =>
  simp only [and_eq_true, beq_iff_eq] at h
  rw [commandRequestId, hpayload]
  exact h.1.1

theorem settles_handleCommand {data : Json} (hnames : namesRequest id data = true)
    (h : 1 ≤ s.progress id) : Settles id (handleCommand data) s := by
  unfold namesRequest at hnames
  split at hnames
  · simp at hnames
  next payload hpayload =>
  simp only [and_eq_true, beq_iff_eq, bne_iff_ne] at hnames
  obtain ⟨⟨rfl, hne⟩, hplan⟩ := hnames
  obtain ⟨planData, hplan⟩ := isSome_iff_exists.1 hplan
  obtain ⟨next, hhandle, happroved, hdispatched⟩ := handleCommand_eq hpayload hne hplan
  have hmoves := moves_handleCommand data
  rw [hhandle] at hmoves ⊢
  refine ensuresUnder_call fun s' hs n hserved answer hanswer => ?_
  simp only [ControllerOp.served, decide_eq_true_eq] at hserved
  obtain ⟨row, hrow, hprogress⟩ := exists_status_of_progress (Nat.le_trans h hs)
  have hquery : (controllerStore payload.requestId).perform s' (.getRequest payload.requestId) n
      = (s', .ok (some row)) := by
    show commit s' (.ok (s', s'.requests.get? payload.requestId)) n.outcome = _
    rw [hserved, hrow]
    rfl
  rw [hquery] at hanswer ⊢
  obtain rfl : Except.ok (some row) = answer := hanswer
  have hgranted : 1 ≤ row.status.progress := hprogress ▸ Nat.le_trans h hs
  cases hstatus : row.status with
  | approved =>
    rw [happroved row hstatus]
    refine ensuresUnder_call fun s'' hs' n' hserved' answer' hanswer' => ?_
    rcases served_transition hserved' with ⟨hok, hmoved⟩ | ⟨hsame, hsettled⟩
    · rw [hok] at hanswer'
      subst hanswer'
      refine settles_executeCommand row planData ?_
      rw [progress_of_status hmoved]
      decide
    · have hfinal := (settled_iff_progress (Nat.le_trans (Nat.le_trans h hs) hs')).1 hsettled
      rw [hsame]
      refine settles_of_final (fun op hcalls => hmoves op (.later (.ok (some row)) ?_)) hfinal
      rw [happroved row hstatus]
      exact .later answer' hcalls
  | dispatched =>
    rw [hdispatched row hstatus]
    exact settles_executeCommand row planData (Nat.le_trans h hs)
  | succeeded | failed =>
    refine settles_of_final (fun op hcalls => hmoves op (.later _ hcalls)) ?_
    rw [hprogress, hstatus]
    decide
  | pendingApproval | rejected | drillCompleted =>
    rw [hstatus] at hgranted
    exact absurd hgranted (by decide)

end Settles

/-! ## Every run -/

/-- What is known of a command of the request in the stream. -/
structure StreamMessage.Kept (id : String) (progress : Nat) (deliveries : List Delivery) (i : Nat)
    (message : StreamMessage) : Prop where
  granted : 1 ≤ progress
  names : namesRequest id message.data = true
  gone : message.gone = true → 3 ≤ progress
  exhausted : maxDeliver ≤ message.deliveries →
    (∃ d ∈ deliveries, d.message = i ∧ d.active = true) ∨ 3 ≤ progress

/-- What holds in every run whose events are sound. -/
structure StreamInv (id : String) (w : StreamWorld) : Prop where
  orderly : Orderly id w.world
  paired : w.deliveries.length = w.world.commands.length
  sources : ∀ d ∈ w.deliveries, d.message < w.messages.length
  kept : ∀ (i : Nat) (message : StreamMessage), w.messages[i]? = some message →
    message.requestId = id → message.Kept id (w.world.traffic.progress id) w.deliveries i
  handled : ∀ (k : Nat) (d : Delivery) (message : StreamMessage), w.deliveries[k]? = some d →
    w.messages[d.message]? = some message → message.requestId = id →
    ∃ p, w.world.commands[k]? = some (id, p) ∧ Settles id p w.world.traffic

section Runs

variable {id : String} {w : StreamWorld}

theorem streamInv_start (id : String) (requests : Table SwitchRequest String SwitchRequest.id)
    (outbox : Outbox) (now : Int) : StreamInv id (.start requests outbox now) where
  orderly := orderly_start id requests outbox now
  paired := rfl
  sources d hd := absurd hd (by simp [start])
  kept i message h := absurd h (by simp [start])
  handled k d message h := absurd h (by simp [start])

theorem StreamWorld.delivered_eq_some {delivery : Nat} {message : StreamMessage}
    (h : w.delivered delivery = some message) :
    ∃ d, w.deliveries[delivery]? = some d ∧ d.active = true
      ∧ w.messages[d.message]? = some message := by
  obtain ⟨d, hd, h⟩ := bind_eq_some_iff.1 h
  split_ifs at h with hactive
  exact ⟨d, hd, hactive, h⟩

section StreamInv

variable (h : StreamInv id w)

include h

theorem StreamInv.world {world : TrafficWorld} (horderly : Orderly id world)
    (hprogress : w.world.traffic.progress id ≤ world.traffic.progress id)
    (hlength : world.commands.length = w.world.commands.length)
    (hhandled : ∀ (k : Nat) (d : Delivery) (message : StreamMessage), w.deliveries[k]? = some d →
      w.messages[d.message]? = some message → message.requestId = id →
      ∃ p, world.commands[k]? = some (id, p) ∧ Settles id p world.traffic) :
    StreamInv id { w with world := world } where
  orderly := horderly
  paired := h.paired.trans hlength.symm
  sources := h.sources
  kept i message hmessage hid := by
    have hkept := h.kept i message hmessage hid
    exact ⟨Nat.le_trans hkept.granted hprogress, hkept.names,
      fun hgone => Nat.le_trans (hkept.gone hgone) hprogress,
      fun hexhausted => (hkept.exhausted hexhausted).imp_right fun hfinal =>
        Nat.le_trans hfinal hprogress⟩
  handled := hhandled

theorem StreamInv.publish {requestId : String} {data : Json}
    (hsound : w.sound id (.publish requestId data) = true) :
    StreamInv id { w with messages := w.messages ++
      [{ requestId := requestId, data := data, deliveries := 0, gone := false }] } where
  orderly := h.orderly
  paired := h.paired
  sources d hd := by
    rw [length_append]
    exact Nat.lt_add_right _ (h.sources d hd)
  kept i message hmessage hid := by
    rcases getElem?_append_cases hmessage with ⟨-, hmessage⟩ | ⟨rfl, rfl⟩
    · exact h.kept i message hmessage hid
    simp only [sound, or_eq_true, bne_iff_ne, and_eq_true] at hsound
    obtain ⟨hgranted, hnames⟩ := hsound.resolve_left fun hne => hne hid
    refine ⟨granted_iff_progress.1 hgranted, hnames, fun hgone => absurd hgone (by simp),
      fun hexhausted => absurd hexhausted (by simp [maxDeliver])⟩
  handled k d message hd hmessage hid := by
    rw [getElem?_append_left (h.sources d (mem_of_getElem? hd))] at hmessage
    exact h.handled k d message hd hmessage hid

variable (sha : String → String)

theorem StreamInv.deliver (i : Nat) : StreamInv id (w.deliver sha i) := by
  unfold StreamWorld.deliver
  split
  · exact h
  next message hmessage =>
  split
  swap
  · exact h
  refine ⟨h.orderly.deliver message.data, ?_, ?_, ?_, ?_⟩
  · simp [h.paired, TrafficWorld.step]
  · rw [length_set]
    refine forall_mem_append.2 ⟨h.sources, forall_mem_singleton.2 ?_⟩
    exact (List.getElem?_eq_some_iff.1 hmessage).1
  · intro j message' hmessage' hid
    rcases getElem?_set_cases hmessage' with ⟨-, hmessage'⟩ | ⟨rfl, rfl⟩
    · have hkept := h.kept j message' hmessage' hid
      refine ⟨hkept.granted, hkept.names, hkept.gone, fun hexhausted => ?_⟩
      refine (hkept.exhausted hexhausted).imp_left ?_
      rintro ⟨d, hd, hactive⟩
      exact ⟨d, mem_append_left _ hd, hactive⟩
    · have hkept := h.kept j message hmessage hid
      refine ⟨hkept.granted, hkept.names, hkept.gone, fun _ => .inl ?_⟩
      exact ⟨_, mem_append_right _ (mem_singleton_self _), rfl, rfl⟩
  · intro k d message' hd hmessage' hid
    -- The messages are the same as far as a handler is concerned.
    obtain ⟨before, hbefore, hrequest, hdata⟩ : ∃ before, w.messages[d.message]? = some before
        ∧ before.requestId = message'.requestId ∧ before.data = message'.data := by
      rcases getElem?_set_cases hmessage' with ⟨-, hmessage'⟩ | ⟨heq, rfl⟩
      · exact ⟨message', hmessage', rfl, rfl⟩
      · exact ⟨message, heq ▸ hmessage, rfl, rfl⟩
    rcases getElem?_append_cases hd with ⟨-, hd⟩ | ⟨rfl, rfl⟩
    · obtain ⟨p, hp, hsettles⟩ := h.handled k d before hd hbefore (hrequest.trans hid)
      exact ⟨p, (getElem?_append_left (List.getElem?_eq_some_iff.1 hp).1).trans hp, hsettles⟩
    obtain rfl : before = message := Option.some.inj (hbefore.symm.trans hmessage)
    have hkept := h.kept i before hmessage (hrequest.trans hid)
    refine ⟨handleCommand before.data, ?_, settles_handleCommand hkept.names hkept.granted⟩
    rw [← commandRequestId_of_names hkept.names, h.paired]
    exact getElem?_concat_length

theorem StreamInv.handle (sha : String → String) {delivery : Nat} {n : ControllerNature}
    (hsound : w.sound id (.handle delivery n) = true) (hdelivered : (w.delivered delivery).isSome) :
    StreamInv id { w with world := w.world.step sha (.handle delivery n) } := by
  obtain ⟨heffect, horderly⟩ := h.orderly.handle delivery n
  have hprogress := heffect.progress_le
  refine h.world horderly hprogress ?_ fun k d message hd hmessage hid => ?_
  · show (w.world.handle delivery n).commands.length = _
    unfold TrafficWorld.handle
    split
    · exact length_set
    · rfl
  obtain ⟨p, hp, hsettles⟩ := h.handled k d message hd hmessage hid
  show ∃ p, (w.world.handle delivery n).commands[k]? = some (id, p)
    ∧ Settles id p (w.world.handle delivery n).traffic
  by_cases hk : k = delivery
  · subst hk
    cases p with
    | done =>
      have hsame : w.world.handle k n = w.world := by
        simp only [TrafficWorld.handle, hp]
      rw [hsame]
      exact ⟨_, hp, hsettles⟩
    | call =>
      obtain ⟨message', hmessage'⟩ := isSome_iff_exists.1 hdelivered
      obtain ⟨d', hd', -, hof⟩ := delivered_eq_some hmessage'
      obtain rfl : d' = d := Option.some.inj (hd'.symm.trans hd)
      obtain rfl : message' = message := Option.some.inj (hof.symm.trans hmessage)
      simp only [sound, hmessage', hp, or_eq_true, bne_iff_ne] at hsound
      have hserved := hsound.resolve_left fun hne => hne hid
      refine ⟨_, TrafficWorld.commands_handle hp n, ?_⟩
      simp only [TrafficWorld.handle, hp]
      exact hsettles _ (Nat.le_refl _) n hserved
  · refine ⟨p, ?_, hsettles.stable hprogress⟩
    unfold TrafficWorld.handle
    split
    · exact (getElem?_set_ne (Ne.symm hk)).trans hp
    · exact hp

/-- A delivery ends. If it was the last one of a command, the request is final. -/
theorem StreamInv.close (delivery : Nat)
    (hclosed : ∀ message, w.delivered delivery = some message → message.requestId = id →
      maxDeliver ≤ message.deliveries → 3 ≤ w.world.traffic.progress id) :
    StreamInv id { w with deliveries := w.close delivery } := by
  have hbefore : ∀ (k : Nat) (d : Delivery), (w.close delivery)[k]? = some d →
      ∃ before, w.deliveries[k]? = some before ∧ before.message = d.message := by
    intro k d hd
    rw [StreamWorld.close, getElem?_modify] at hd
    obtain ⟨before, hbefore, rfl⟩ := map_eq_some_iff.1 hd
    refine ⟨before, hbefore, ?_⟩
    split <;> rfl
  refine ⟨h.orderly, ?_, fun d hd => ?_, fun i message hmessage hid => ?_,
    fun k d message hd hmessage hid => ?_⟩
  · exact (length_modify _ _ _).trans h.paired
  · obtain ⟨k, hk⟩ := mem_iff_getElem?.1 hd
    obtain ⟨before, hk', hmessage⟩ := hbefore k d hk
    rw [← hmessage]
    exact h.sources before (mem_of_getElem? hk')
  · have hkept := h.kept i message hmessage hid
    refine ⟨hkept.granted, hkept.names, hkept.gone, fun hexhausted => ?_⟩
    rcases hkept.exhausted hexhausted with ⟨d, hd, hof, hactive⟩ | hfinal
    swap
    · exact .inr hfinal
    obtain ⟨k, hk⟩ := mem_iff_getElem?.1 hd
    by_cases heq : delivery = k
    · subst heq
      refine .inr (hclosed message ?_ hid hexhausted)
      simp only [StreamWorld.delivered, hk, bind_some, hactive, if_true, hof, hmessage]
    · refine .inl ⟨d, mem_of_getElem? (i := k) ?_, hof, hactive⟩
      simp [StreamWorld.close, hk, heq]
  · obtain ⟨before, hk, hof⟩ := hbefore k d hd
    exact h.handled k before message hk (hof ▸ hmessage) hid

/-- A message goes. If it is a command of the request, the request is final. -/
theorem StreamInv.drop (i : Nat)
    (hdropped : ∀ message, w.messages[i]? = some message → message.requestId = id →
      3 ≤ w.world.traffic.progress id) : StreamInv id { w with messages := w.drop i } := by
  have hbefore : ∀ (j : Nat) (message : StreamMessage), (w.drop i)[j]? = some message →
      ∃ before, w.messages[j]? = some before
        ∧ message = if i = j then { before with gone := true } else before := by
    intro j message hmessage
    rw [StreamWorld.drop, getElem?_modify] at hmessage
    obtain ⟨before, hbefore, rfl⟩ := map_eq_some_iff.1 hmessage
    refine ⟨before, hbefore, ?_⟩
    split <;> rfl
  refine ⟨h.orderly, h.paired, fun d hd => ?_, fun j message hmessage hid => ?_,
    fun k d message hd hmessage hid => ?_⟩
  · rw [StreamWorld.drop, length_modify]
    exact h.sources d hd
  · obtain ⟨before, hmessage', rfl⟩ := hbefore j message hmessage
    by_cases hij : i = j
    · subst hij
      rw [if_pos rfl] at hid ⊢
      have hkept := h.kept i before hmessage' hid
      have hfinal := hdropped before hmessage' hid
      exact ⟨hkept.granted, hkept.names, fun _ => hfinal, fun _ => .inr hfinal⟩
    · rw [if_neg hij] at hid ⊢
      exact h.kept j before hmessage' hid
  · obtain ⟨before, hmessage', rfl⟩ := hbefore d.message message hmessage
    refine h.handled k d before hd hmessage' ?_
    rw [← hid]
    split <;> rfl

theorem StreamInv.ack (delivery : Nat) : StreamInv id (w.ack delivery) := by
  unfold StreamWorld.ack
  split
  · next d requestId result hd hcommand =>
    split
    · -- The handler has returned, so that the request is final if the message is a command of it.
      have hfinal : ∀ message, w.messages[d.message]? = some message → message.requestId = id →
          3 ≤ w.world.traffic.progress id := by
        intro message hmessage hid
        obtain ⟨p, hp, hsettles⟩ := h.handled delivery d message hd hmessage hid
        obtain ⟨-, rfl⟩ := Prod.mk.inj (Option.some.inj (hp.symm.trans hcommand))
        exact hsettles _ (Nat.le_refl _)
      refine (h.close delivery fun message hmessage hid _ => ?_).drop d.message hfinal
      obtain ⟨d', hd', -, hmessage'⟩ := delivered_eq_some hmessage
      obtain rfl : d' = d := Option.some.inj (hd'.symm.trans hd)
      exact hfinal message hmessage' hid
    · exact h
  · exact h

theorem StreamInv.other {event : TrafficEvent} (hwaits : w.world.Waits id event)
    (hcommands : (w.world.step sha event).commands = w.world.commands) :
    StreamInv id { w with world := w.world.step sha event } := by
  obtain ⟨heffect, horderly⟩ := h.orderly.step sha hwaits
  have hprogress := progress_le_of_effect heffect
  refine h.world horderly hprogress (congrArg List.length hcommands)
    fun k d message hd hmessage hid => ?_
  obtain ⟨p, hp, hsettles⟩ := h.handled k d message hd hmessage hid
  exact ⟨p, hcommands ▸ hp, hsettles.stable hprogress⟩

theorem StreamInv.step {event : StreamEvent}
    (hsound : w.sound id event = true) : StreamInv id (w.step sha event) := by
  cases event with
  | publish => exact h.publish hsound
  | deliver i => exact h.deliver sha i
  | handle delivery =>
    show StreamInv id (if (w.delivered delivery).isSome then _ else w)
    split
    · next hdelivered => exact h.handle sha hsound hdelivered
    · exact h
  | ack delivery => exact h.ack delivery
  | crash delivery =>
    refine h.close delivery fun message hmessage hid hexhausted => ?_
    simp only [sound, hmessage, or_eq_true, bne_iff_ne, decide_eq_true_eq] at hsound
    obtain ⟨d, -, -, hof⟩ := delivered_eq_some hmessage
    rcases hsound with (hne | hlt) | hsettled
    · exact absurd hid hne
    · omega
    · exact (settled_iff_progress (h.kept d.message message hof hid).granted).1 hsettled
  | expire i =>
    refine h.drop i fun message hmessage hid => ?_
    simp only [sound, hmessage, or_eq_true, bne_iff_ne] at hsound
    exact (settled_iff_progress (h.kept i message hmessage hid).granted).1
      (hsound.resolve_left fun hne => hne hid)
  | other event =>
    replace hsound : w.world.Waits id event := of_decide_eq_true hsound
    cases event with
    | deliver | handle => exact h
    | perform call n =>
      refine h.other sha hsound ?_
      show (w.world.perform call n).commands = _
      unfold TrafficWorld.perform
      split <;> rfl
    | _ => exact h.other sha hsound rfl

end StreamInv

/-- In every run whose events are sound, a command leaves the stream only when its request is in a
    final state: none stays approved or dispatched without its command. -/
theorem removed_commands_settled (sha : String → String) (id : String)
    (requests : Table SwitchRequest String SwitchRequest.id) (outbox : Outbox) (now : Int)
    (events : List StreamEvent)
    (hsound : ∀ x ∈ (streamMachine sha).trace (.start requests outbox now) events,
      x.pre.sound id x.call = true) :
    let w := (streamMachine sha).run (.start requests outbox now) events
    ∀ (i : Nat) (message : StreamMessage), w.messages[i]? = some message → message.requestId = id →
      w.removed i message = true → w.world.traffic.settled id = true := by
  intro w i message hmessage hid hremoved
  have hinv : StreamInv id w := (streamMachine sha).run_induction_of_trace
    (C := fun w event => w.sound id event = true) (fun w event hevent h => h.step sha hevent)
    (streamInv_start id requests outbox now) hsound
  have hkept := hinv.kept i message hmessage hid
  refine (settled_iff_progress hkept.granted).2 ?_
  simp only [StreamWorld.removed, or_eq_true, and_eq_true, decide_eq_true_eq,
    List.all_eq_true] at hremoved
  rcases hremoved with hgone | ⟨hexhausted, hended⟩
  · exact hkept.gone hgone
  · rcases hkept.exhausted hexhausted with ⟨d, hd, hof, hactive⟩ | hfinal
    · exact absurd (hended d hd) (by simp [hof, hactive])
    · exact hfinal

end Runs

/-! ## Two runs -/

/-- The failover is approved, and its command is published and delivered. -/
def deliveredFailover : List StreamEvent :=
  approveFailover.map .other ++ [.publish pendingFailover.id failoverCommand.payload, .deliver 0]

/-- It is executed. -/
def handledFailover : List StreamEvent :=
  deliveredFailover ++ List.replicate 5 (.handle 0 answeredController) ++ [.ack 0]

theorem removed_commands_settled_of_failover :
    let w := (streamMachine id).run (.start ⟨[pendingFailover], nodup_singleton _⟩ .empty 0)
      handledFailover
    w.messages.map StreamMessage.gone = [true]
      ∧ ∀ (i : Nat) (message : StreamMessage), w.messages[i]? = some message →
        message.requestId = pendingFailover.id → w.removed i message = true →
        w.world.traffic.settled pendingFailover.id = true := by
  obtain ⟨hgone, hsound⟩ :
      ((streamMachine id).run (.start ⟨[pendingFailover], nodup_singleton _⟩ .empty 0)
        handledFailover).messages.map StreamMessage.gone = [true]
      ∧ ∀ x ∈ (streamMachine id).trace (.start ⟨[pendingFailover], nodup_singleton _⟩ .empty 0)
          handledFailover, x.pre.sound pendingFailover.id x.call = true := by
    decide +kernel
  exact ⟨hgone, removed_commands_settled id pendingFailover.id
    ⟨[pendingFailover], nodup_singleton _⟩ .empty 0 handledFailover hsound⟩

/-- The store does not answer when the command is handled. -/
def unansweredFailover : List StreamEvent :=
  deliveredFailover
    ++ [.handle 0 { answeredController with outcome := .refused "connection refused" }, .ack 0]

/-- The command is acknowledged, and the request stays approved. -/
theorem unanswered_command_gone :
    let w := (streamMachine id).run (.start ⟨[pendingFailover], nodup_singleton _⟩ .empty 0)
      unansweredFailover
    w.messages.map (fun message => (message.requestId, message.gone)) = [(pendingFailover.id, true)]
      ∧ w.world.traffic.status pendingFailover.id = some .approved := by
  decide +kernel

end HnbCloud.Gslb
