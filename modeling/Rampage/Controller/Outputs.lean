/-
The outputs of a receipt. `submit_receipt` records a receipt and each of its outputs as separate
events, and what makes a retry succeed looks at the receipt alone. A submission that is cut after
the first event, by a crash or by a ledger that refuses an output, therefore loses the outputs that
have no event yet; runs without such a cut keep them all.
-/
import Rampage.Controller.Failed

namespace Rampage.Controller

open Rampage.Protocol Rampage.Planner Rampage.Governor Rampage.Ledger Handler

variable {cfg : Config} {w : World}

/-! ## The events of a receipt -/

/-- The event of an output that was recorded. -/
def outputEvent (receipt : ExecutionReceiptV1) (output : ArtifactRefV1) : Event :=
  .artifactHeld .outputRecorded output receipt.nodeId

/-- The events of a settled receipt, in order. -/
def receiptEvents (receipt : ExecutionReceiptV1) : List Event :=
  .jobReceipted receipt :: receipt.outputs.map (outputEvent receipt)

theorem length_receiptEvents (receipt : ExecutionReceiptV1) :
    (receiptEvents receipt).length = receipt.outputs.length + 1 := by
  simp [receiptEvents]

/-- How many of the next `n` appends the ledger takes before it refuses one. -/
def taken (w : World) : Nat → Nat → Nat
  | _, 0 => 0
  | k, n + 1 => if (w.appendFailure k).isNone then taken w (k + 1) n + 1 else 0

theorem taken_eq_iff {k n : Nat} : taken w k n = n ↔ ∀ i < n, w.appendFailure (k + i) = none := by
  induction n generalizing k with
  | zero => simp [taken]
  | succ n ih =>
    rw [taken]
    constructor
    · intro h
      split at h
      · rename_i h0
        have hrest := ih.1 (Nat.succ.inj h)
        intro i hi
        cases i with
        | zero => simpa using h0
        | succ i =>
          have := hrest i (by omega)
          rwa [Nat.add_right_comm] at this
      · cases h
    · intro h
      have h0 : (w.appendFailure k).isNone = true := by simpa using h 0 (Nat.succ_pos n)
      rw [if_pos h0, ih.2 fun i hi => ?_]
      have := h (i + 1) (by omega)
      rwa [Nat.add_right_comm]

/-- The ledger holds the events of the outputs up to the first it refuses. -/
theorem recordOutputs_ledger (receipt : ExecutionReceiptV1) : ∀ (outputs : List ArtifactRefV1) (s : Host),
    (forEach (recordOutput w receipt) outputs s).2.ledger =
      s.ledger ++ (outputs.map (outputEvent receipt)).take (taken w s.appends outputs.length)
  | [], s => by simp [forEach, pure]
  | output :: outputs, s => by
    rw [forEach]
    cases hf : w.appendFailure s.appends with
    | none =>
      have hrec : recordOutput w receipt output s = (.ok (), { s with
          artifactReplicas := s.artifactReplicas.insert (output.digest, receipt.nodeId) output
          ledger := s.ledger ++ [outputEvent receipt output]
          appends := s.appends + 1 }) := by
        unfold recordOutput
        rw [modify_bind]
        simp only [append, hf]
        rfl
      rw [bind_of_ok hrec, recordOutputs_ledger receipt outputs]
      simp [taken, hf]
    | some text =>
      have hrec : ∃ t, recordOutput w receipt output s = (.error (internalError text), t) ∧ t.ledger = s.ledger := by
        unfold recordOutput
        rw [modify_bind]
        simp only [append, hf]
        exact ⟨_, rfl, rfl⟩
      obtain ⟨t, ht, hled⟩ := hrec
      rw [bind_of_error ht]
      simp [taken, hf, hled]

/-- A settled receipt leaves the events the ledger took, in order. -/
theorem settleReceipt_ledger (a : Assignment) (receipt : ExecutionReceiptV1) (s : Host) :
    (settleReceipt w a receipt s).2.ledger =
      s.ledger ++ (receiptEvents receipt).take (taken w s.appends (receipt.outputs.length + 1)) := by
  unfold settleReceipt
  rw [modify_bind]
  cases hf : w.appendFailure s.appends with
  | none =>
    have hf' : w.appendFailure (settleJob receipt.jobId a.job.idempotencyKey s).appends = none := hf
    rw [append_bind _ hf', modify_bind, bind_pure_state, recordOutputs_ledger]
    show s.ledger ++ [.jobReceipted receipt] ++ (receipt.outputs.map (outputEvent receipt)).take
      (taken w (s.appends + 1) receipt.outputs.length) = _
    simp [taken, hf, receiptEvents]
  | some text =>
    have happ : append w (.jobReceipted receipt) (settleJob receipt.jobId a.job.idempotencyKey s) =
        (.error (internalError text), { settleJob receipt.jobId a.job.idempotencyKey s with appends := s.appends + 1 }) := by
      have hf' : w.appendFailure (settleJob receipt.jobId a.job.idempotencyKey s).appends = some text := hf
      simp only [append, hf']
      rfl
    rw [bind_of_error happ]
    simp [taken, hf, settleJob]

/-! ## Runs with cuts -/

/-- A crash inside `submit_receipt` that left `kept` of its events on record, and the startup after it. -/
def crashInReceipt (cfg : Config) (w : World) (receipt : ExecutionReceiptV1) (kept : Nat) (s : Host) : Host :=
  let recorded := if (settledBy cfg receipt s).isSome then (receiptEvents receipt).take kept else []
  (restart w { s with ledger := s.ledger ++ recorded, appends := s.appends + recorded.length }).2

/-- The inputs of a run: the operations of the controller, and submissions of receipts that a crash ends. -/
inductive CutOp
  | op (op : Op)
  | crash (receipt : ExecutionReceiptV1) (kept : Nat)

/-- The controller with crashes inside `submit_receipt`. -/
def cutMachine (cfg : Config) (w : World) : Machine Host CutOp Unit where
  step
    | .op op, s => ((), (step cfg w op s).2)
    | .crash receipt kept, s => ((), crashInReceipt cfg w receipt kept s)

/-- How many events a submission that settles its receipt leaves: none, or the receipt with all its outputs. -/
def leavesAll (receipt : ExecutionReceiptV1) (kept : Nat) : Prop := kept = 0 ∨ receipt.outputs.length < kept

/-- No settled receipt is cut between its own event and the last of its outputs, and no node is revoked
that has a receipt with outputs on record. -/
def Uncut (cfg : Config) (w : World) (s : Host) : CutOp → Prop
  | .op (.submitReceipt receipt) =>
    (settledBy cfg receipt s).isSome = true → leavesAll receipt (taken w s.appends (receipt.outputs.length + 1))
  | .op (.revokeNode nodeId _) => ∀ r, .jobReceipted r ∈ s.ledger → r.nodeId = nodeId → r.outputs = []
  | .op _ => True
  | .crash receipt kept => (settledBy cfg receipt s).isSome = true → leavesAll receipt kept

/-! ## What a replay holds -/

/-- A replay of the ledger records the artifact for the node. -/
def HeldOn (l : List Event) (digest : String) (nodeId : Uuid) : Prop :=
  ∀ u e, ((replay u e l).artifactReplicas.lookup (digest, nodeId)).isSome = true

/-- Only a revocation of the node drops what a replay holds for it. -/
theorem HeldOn.snoc {l : List Event} {digest : String} {nodeId : Uuid} {event : Event} (h : HeldOn l digest nodeId)
    (hrev : ∀ name key, event ≠ .nodeRevoked nodeId name key) : HeldOn (l ++ [event]) digest nodeId := by
  intro u e
  have hl := h u e
  rw [replay_snoc]
  cases event with
  | nodeRevoked node name key =>
    have hne : nodeId ≠ node := by
      rintro rfl
      exact hrev name key rfl
    show (((replay u e l).artifactReplicas.retain fun k _ => k.2 != node).lookup (digest, nodeId)).isSome = true
    obtain ⟨artifact, ha⟩ := Option.isSome_iff_exists.1 hl
    rw [Table.lookup_retain, ha]
    simp [Option.filter, hne]
  | artifactHeld held artifact node =>
    show (((replay u e l).artifactReplicas.insert (artifact.digest, node) artifact).lookup (digest, nodeId)).isSome = true
    rw [Table.lookup_insert']
    split
    · rfl
    · exact hl
  | inviteCreated =>
    unfold replayEvent
    dsimp only
    split <;> exact hl
  | _ => exact hl

theorem HeldOn.append {l es : List Event} {digest : String} {nodeId : Uuid} (h : HeldOn l digest nodeId)
    (hrev : ∀ event ∈ es, ∀ name key, event ≠ .nodeRevoked nodeId name key) : HeldOn (l ++ es) digest nodeId := by
  induction es using List.reverseRecOn with
  | nil => rwa [List.append_nil]
  | append_singleton es event ih =>
    rw [← List.append_assoc]
    exact (ih fun e he => hrev e (List.mem_append_left _ he)).snoc (hrev event (by simp))

/-- An event that records an artifact holds it, until its node is revoked. -/
theorem heldOn_of_mem {l es : List Event} {held : HeldKind} {artifact : ArtifactRefV1} {nodeId : Uuid}
    (hm : .artifactHeld held artifact nodeId ∈ es)
    (hrev : ∀ event ∈ es, ∀ name key, event ≠ .nodeRevoked nodeId name key) :
    HeldOn (l ++ es) artifact.digest nodeId := by
  obtain ⟨pre, post, rfl⟩ := List.mem_iff_append.1 hm
  have hnow : HeldOn (l ++ pre ++ [.artifactHeld held artifact nodeId]) artifact.digest nodeId := by
    intro u e
    rw [replay_snoc]
    show (((replay u e (l ++ pre)).artifactReplicas.insert (artifact.digest, nodeId) artifact).lookup _).isSome = true
    rw [AList.lookup_insert]
    rfl
  have hall : HeldOn (l ++ pre ++ [.artifactHeld held artifact nodeId] ++ post) artifact.digest nodeId :=
    hnow.append fun event he => hrev event (by simp [he])
  simpa using hall

/-! ## The invariant -/

/-- Every receipt the controller calls completed is on record, and every receipt on record has its
outputs held for its node. -/
structure Accounted (s : Host) : Prop where
  completed : ∀ id jobId, s.completedReceipts.lookup id = some jobId →
    ∃ r, .jobReceipted r ∈ s.ledger ∧ r.receiptId = id ∧ r.jobId = jobId
  held : ∀ r, .jobReceipted r ∈ s.ledger → ∀ output ∈ r.outputs, HeldOn s.ledger output.digest r.nodeId

/-- The completed receipts of a replay are on record. -/
theorem replay_completedReceipts {u : Int} {e : Nat} {l : List Event} {id jobId : Uuid}
    (h : (replay u e l).completedReceipts.lookup id = some jobId) :
    ∃ r, .jobReceipted r ∈ l ∧ r.receiptId = id ∧ r.jobId = jobId := by
  induction l using List.reverseRecOn with
  | nil =>
    rw [replay_nil] at h
    cases h
  | append_singleton l event ih =>
    have old : (replay u e l).completedReceipts.lookup id = some jobId →
        ∃ r, .jobReceipted r ∈ l ++ [event] ∧ r.receiptId = id ∧ r.jobId = jobId := by
      intro h
      obtain ⟨r, hr, hid⟩ := ih h
      exact ⟨r, List.mem_append_left _ hr, hid⟩
    rw [replay_snoc] at h
    cases event with
    | jobReceipted r =>
      change ((replay u e l).completedReceipts.insert r.receiptId r.jobId).lookup id = some jobId at h
      rw [Table.lookup_insert'] at h
      split at h
      · rename_i hid
        exact ⟨r, by simp, hid.symm, Option.some.inj h⟩
      · exact old h
    | inviteCreated =>
      unfold replayEvent at h
      dsimp only at h
      split at h <;> exact old h
    | _ => exact old h

/-- Events that record no receipt and revoke no node keep the account. -/
theorem Accounted.of_events {s t : Host} (h : Accounted s) (hc : t.completedReceipts = s.completedReceipts)
    (hev : ∃ es, t.ledger = s.ledger ++ es ∧ ∀ e ∈ es, e.kind ≠ .jobReceipted ∧ e.kind ≠ .nodeRevoked) :
    Accounted t := by
  obtain ⟨es, hes, hk⟩ := hev
  constructor
  · intro id jobId hl
    rw [hc] at hl
    obtain ⟨r, hr, hid⟩ := h.completed id jobId hl
    exact ⟨r, by rw [hes]; exact List.mem_append_left _ hr, hid⟩
  · intro r hr output ho
    rw [hes] at hr ⊢
    rcases List.mem_append.1 hr with hr | hr
    · refine (h.held r hr output ho).append fun event he name key hrev => ?_
      exact (hk event he).2 (by rw [hrev]; rfl)
    · exact absurd rfl (hk _ hr).1

/-- A restart keeps what is on record. -/
theorem Accounted.restart {s : Host} (h : Accounted s) : Accounted (Controller.restart w s).2 :=
  ⟨fun _ _ hl => replay_completedReceipts hl, h.held⟩

/-- The whole of a receipt's events keeps the account, with the receipt completed or not yet. -/
theorem Accounted.receipt {s t : Host} {receipt : ExecutionReceiptV1} (h : Accounted s)
    (hled : t.ledger = s.ledger ++ receiptEvents receipt)
    (hc : t.completedReceipts = s.completedReceipts.insert receipt.receiptId receipt.jobId ∨
      t.completedReceipts = s.completedReceipts) : Accounted t := by
  have hrev : ∀ nodeId, ∀ event ∈ receiptEvents receipt, ∀ name key, event ≠ .nodeRevoked nodeId name key := by
    intro nodeId event he name key hevent
    subst hevent
    simp [receiptEvents, outputEvent] at he
  have old : ∀ id jobId, s.completedReceipts.lookup id = some jobId →
      ∃ r, .jobReceipted r ∈ t.ledger ∧ r.receiptId = id ∧ r.jobId = jobId := by
    intro id jobId hl
    obtain ⟨r, hr, hid⟩ := h.completed id jobId hl
    exact ⟨r, by rw [hled]; exact List.mem_append_left _ hr, hid⟩
  constructor
  · intro id jobId hl
    rcases hc with hc | hc
    · rw [hc, Table.lookup_insert'] at hl
      split at hl
      · rename_i hid
        exact ⟨receipt, by rw [hled]; simp [receiptEvents], hid.symm, Option.some.inj hl⟩
      · exact old id jobId hl
    · rw [hc] at hl
      exact old id jobId hl
  · intro r hr output ho
    rw [hled] at hr ⊢
    rcases List.mem_append.1 hr with hr | hr
    · exact (h.held r hr output ho).append (hrev r.nodeId)
    · -- the one receipt among the new events
      have hreceipt : r = receipt := by simpa [receiptEvents, outputEvent] using hr
      subst hreceipt
      refine @heldOn_of_mem _ _ .outputRecorded output _ ?_ (hrev r.nodeId)
      simp only [receiptEvents, List.mem_cons, List.mem_map]
      exact Or.inr ⟨output, ho, rfl⟩

/-! ## Steps -/

/-- The steps that settle no receipt and revoke no node keep the account. -/
theorem Change.accounted {s t : Host} {op : Op} {r : Reply} (hchange : Change cfg w s t op r) (h : Accounted s)
    (hreceipt : ∀ receipt, op ≠ .submitReceipt receipt) (hrevoke : ∀ nodeId confirmed, op ≠ .revokeNode nodeId confirmed) :
    Accounted t := by
  cases hchange with
  | idle frame =>
    obtain ⟨es, hes, hk⟩ := frame.events
    refine h.of_events frame.completedReceipts ⟨es, hes, fun e he => ?_⟩
    have := hk e he
    simp only [JobPassive, List.mem_cons, List.not_mem_nil, or_false, not_or] at this
    exact ⟨this.2.2.2.2, this.1⟩
  | halted halting =>
    obtain ⟨es, hes, hk⟩ := halting.events
    refine h.of_events halting.completedReceipts ⟨es, hes, fun e he => ?_⟩
    rcases hk e he with hk | hk | hk <;> simp [hk]
  | admitted admission =>
    obtain ⟨es, hes, hk⟩ := admission.events
    refine h.of_events admission.completedReceipts ⟨es, hes, fun e he => ?_⟩
    rcases hk e he with (hk | hk | hk | hk) | hk | hk <;> simp [hk]
  | revoked => exact absurd rfl (hrevoke _ _)
  | claimed _ _ result =>
    rw [result]
    exact h.of_events rfl ⟨[.jobClaimed _], rfl, by simp [Event.kind]⟩
  | claimLost _ _ result =>
    rw [result]
    exact h.of_events rfl ⟨[], (List.append_nil s.ledger).symm, by simp⟩
  | receipted => exact absurd rfl (hreceipt _)
  | receiptLost => exact absurd rfl (hreceipt _)
  | restarted result =>
    rw [result]
    exact h.restart

/-- A revocation of a node whose receipts have no outputs keeps the account. -/
theorem Accounted.revokeNode {s : Host} (h : Accounted s) {nodeId : Uuid} (confirmed : Bool)
    (hnone : ∀ r, .jobReceipted r ∈ s.ledger → r.nodeId = nodeId → r.outputs = []) :
    Accounted (Controller.revokeNode w nodeId confirmed s).2 := by
  have hother : ∀ {u t : Host}, Accounted u → Quiet Other u t → Accounted t := by
    intro u t hu hq
    obtain ⟨es, hes, hk⟩ := hq.events
    refine hu.of_events hq.completedReceipts ⟨es, hes, fun e he => ?_⟩
    have hkind : e.kind = .other := hk e he
    simp [hkind]
  rcases revokeNode_cases (w := w) nodeId confirmed s with hq | ⟨name, key, hq⟩
  · exact hother h hq
  refine hother ⟨?_, ?_⟩ hq
  · intro id jobId hl
    obtain ⟨r, hr, hid⟩ := h.completed id jobId hl
    exact ⟨r, List.mem_append_left _ hr, hid⟩
  · intro r hr output ho
    have hold : .jobReceipted r ∈ s.ledger := by
      rcases List.mem_append.1 hr with hr | hr
      · exact hr
      · simp at hr
    refine (h.held r hold output ho).snoc fun name' key' hrev => ?_
    rw [Event.nodeRevoked.injEq] at hrev
    rw [hnone r hold hrev.1.symm] at ho
    cases ho

/-- A submission that leaves all the events of its receipt, or none, keeps the account. -/
theorem Accounted.submitReceipt {s : Host} (h : Accounted s) {receipt : ExecutionReceiptV1}
    (hall : (settledBy cfg receipt s).isSome = true →
      leavesAll receipt (taken w s.appends (receipt.outputs.length + 1))) :
    Accounted (Controller.submitReceipt cfg w receipt s).2 := by
  cases hs : settledBy cfg receipt s with
  | none =>
    rw [(submitReceipt_of_unsettled hs).1]
    exact h
  | some a =>
    rw [submitReceipt_of_settled hs]
    have hled := settleReceipt_ledger (w := w) a receipt s
    rcases hall (by rw [hs]; rfl) with hk | hk
    · rw [hk, List.take_zero, List.append_nil] at hled
      rcases settleReceipt_cases (w := w) a receipt s with ⟨_, _, ht⟩ | ⟨hf, _⟩
      · rw [ht]
        exact h.of_events rfl ⟨[], (List.append_nil s.ledger).symm, by simp⟩
      · simp [taken, hf] at hk
    · rw [List.take_of_length_le (by rw [length_receiptEvents]; exact hk)] at hled
      refine h.receipt hled ?_
      rcases settleReceipt_cases (w := w) a receipt s with ⟨_, _, ht⟩ | ⟨_, hq⟩
      · rw [ht]
        exact Or.inr rfl
      · exact Or.inl hq.completedReceipts

theorem Accounted.crashInReceipt {s : Host} (h : Accounted s) {receipt : ExecutionReceiptV1} {kept : Nat}
    (hall : (settledBy cfg receipt s).isSome = true → leavesAll receipt kept) :
    Accounted (Controller.crashInReceipt cfg w receipt kept s) := by
  unfold Controller.crashInReceipt
  refine Accounted.restart ?_
  split
  · rename_i hs
    rcases hall hs with rfl | hk
    · rw [List.take_zero]
      exact h.of_events rfl ⟨[], rfl, by simp⟩
    · rw [List.take_of_length_le (by rw [length_receiptEvents]; exact hk)]
      exact h.receipt rfl (Or.inr rfl)
  · exact h.of_events rfl ⟨[], rfl, by simp⟩

theorem Accounted.step {s : Host} (h : Accounted s) (op : CutOp) (huncut : Uncut cfg w s op) :
    Accounted ((cutMachine cfg w).step op s).2 := by
  cases op with
  | crash receipt kept => exact h.crashInReceipt huncut
  | op op =>
    cases op with
    | submitReceipt receipt => exact h.submitReceipt huncut
    | revokeNode nodeId confirmed => exact h.revokeNode confirmed huncut
    | _ => exact (@step_change cfg w _ s).accounted h (fun _ h => by cases h) (fun _ _ h => by cases h)

theorem accounted_run (epoch : Nat) (artifactHead : String → Except String ArtifactRefV1) {ops : List CutOp}
    (huncut : (cutMachine cfg w).Meets (Uncut cfg w) ops (initial epoch artifactHead)) :
    Accounted ((cutMachine cfg w).exec ops (initial epoch artifactHead)) := by
  refine (cutMachine cfg w).state_invariant (fun s op hs hc => hs.step op hc) ops ⟨?_, ?_⟩ huncut
  · intro id jobId h
    cases h
  · intro r hr
    cases hr

/-- An answered receipt is on record with its outputs, if it is the one receipt with its id and job. -/
theorem Accounted.answered {s : Host} (h : Accounted s) {receipt : ExecutionReceiptV1}
    (hsame : ∀ r, .jobReceipted r ∈ s.ledger → r.receiptId = receipt.receiptId → r.jobId = receipt.jobId → r = receipt)
    (hok : (Controller.submitReceipt cfg w receipt s).1.isOk = true) :
    ∀ output ∈ receipt.outputs,
      HeldOn (Controller.submitReceipt cfg w receipt s).2.ledger output.digest receipt.nodeId := by
  intro output ho
  cases hs : settledBy cfg receipt s with
  | none =>
    obtain ⟨hstate, hdup⟩ := submitReceipt_of_unsettled (w := w) hs
    obtain ⟨r, hr, hid, hjob⟩ := h.completed _ _ (hdup hok)
    have := hsame r hr hid hjob
    subst this
    rw [hstate]
    exact h.held r hr output ho
  | some a =>
    rw [submitReceipt_of_settled hs] at hok ⊢
    -- an accepted receipt had every append taken
    have hall : taken w s.appends (receipt.outputs.length + 1) = receipt.outputs.length + 1 := by
      rw [taken_eq_iff]
      intro i hi
      by_contra hne
      obtain ⟨e, he⟩ := (settleReceipt_failed_iff (w := w) a receipt s).2 ⟨i, by omega, hne⟩
      rw [he] at hok
      cases hok
    rw [settleReceipt_ledger, hall, List.take_of_length_le (length_receiptEvents receipt).le]
    refine @heldOn_of_mem _ _ .outputRecorded output _ ?_ ?_
    · simp only [receiptEvents, List.mem_cons, List.mem_map]
      exact Or.inr ⟨output, ho, rfl⟩
    · intro event he name key hevent
      subst hevent
      simp [receiptEvents, outputEvent] at he

/-! ## What a cut loses -/

/-- The replicas of a replay depend on the ledger alone. -/
theorem replay_artifactReplicas_eq (u u' : Int) (e e' : Nat) (l : List Event) :
    (replay u e l).artifactReplicas = (replay u' e' l).artifactReplicas := by
  induction l using List.reverseRecOn with
  | nil => rw [replay_nil, replay_nil]
  | append_singleton l event ih =>
    rw [replay_snoc, replay_snoc]
    cases event with
    | inviteCreated =>
      unfold replayEvent
      dsimp only
      split <;> split <;> exact ih
    | nodeRevoked | artifactHeld =>
      unfold replayEvent
      dsimp only
      rw [ih]
    | _ => exact ih

/-- Events that do not record the artifact for the node do not make a replay hold it. -/
theorem not_heldOn_append {l es : List Event} {digest : String} {nodeId : Uuid} (h : ¬ HeldOn l digest nodeId)
    (hes : ∀ event ∈ es, ∀ held artifact node, event = .artifactHeld held artifact node → artifact.digest ≠ digest) :
    ¬ HeldOn (l ++ es) digest nodeId := by
  induction es using List.reverseRecOn with
  | nil => rwa [List.append_nil]
  | append_singleton es event ih =>
    have hprefix := ih fun event' he' => hes event' (List.mem_append_left _ he')
    intro hheld
    apply hprefix
    intro u e
    have hnow := hheld u e
    rw [← List.append_assoc, replay_snoc] at hnow
    cases event with
    | artifactHeld held artifact node =>
      change (((replay u e (l ++ es)).artifactReplicas.insert (artifact.digest, node) artifact).lookup
        (digest, nodeId)).isSome = true at hnow
      rw [Table.lookup_insert', if_neg] at hnow
      · exact hnow
      · intro hkey
        exact hes _ (by simp) held artifact node rfl (Prod.mk.inj hkey).1.symm
    | nodeRevoked node name key =>
      change (((replay u e (l ++ es)).artifactReplicas.retain fun k _ => k.2 != node).lookup
        (digest, nodeId)).isSome = true at hnow
      rw [Table.lookup_retain] at hnow
      obtain ⟨artifact, ha⟩ := Option.isSome_iff_exists.1 hnow
      rw [Option.filter_eq_some_iff] at ha
      rw [ha.1]
      rfl
    | inviteCreated =>
      unfold replayEvent at hnow
      dsimp only at hnow
      split at hnow <;> exact hnow
    | _ => exact hnow

theorem lookup_restart_of_heldOn {s : Host} {digest : String} {nodeId : Uuid} (h : HeldOn s.ledger digest nodeId) :
    ((restart w s).2.artifactReplicas.lookup (digest, nodeId)).isSome = true := h _ _

theorem lookup_restart_of_not_heldOn {s : Host} {digest : String} {nodeId : Uuid}
    (h : ¬ HeldOn s.ledger digest nodeId) : (restart w s).2.artifactReplicas.lookup (digest, nodeId) = none := by
  rw [← Option.not_isSome_iff_eq_none]
  intro hsome
  refine h fun u e => ?_
  rw [replay_artifactReplicas_eq u (w.clock s.reads) e s.fencingEpoch]
  exact hsome

/-- A receipt cut by the ledger between its event and its last output is answered as a duplicate when
it is sent again. -/
theorem submitReceipt_after_cut {receipt : ExecutionReceiptV1} {s : Host} {a : Assignment}
    (hs : settledBy cfg receipt s = some a) (hcut : taken w s.appends (receipt.outputs.length + 1) ≠ 0) :
    let t := (submitReceipt cfg w receipt s).2
    submitReceipt cfg w receipt t = (.ok ⟨.ok, receipt.receiptId, receipt.state, true⟩, t) := by
  intro t
  obtain ⟨hterm, ⟨identity, hn, hv⟩, _⟩ := settledBy_some hs
  have ht : t = (settleReceipt w a receipt s).2 := congrArg Prod.snd (submitReceipt_of_settled hs)
  have hq : Quiet Recording (receipted a receipt s) t := by
    rw [ht]
    rcases settleReceipt_cases (w := w) a receipt s with ⟨hf, _⟩ | ⟨_, hq⟩
    · have hf' : (w.appendFailure s.appends).isNone = false := by
        rw [Option.isNone_eq_false_iff, Option.isSome_iff_ne_none]
        exact hf
      simp [taken, hf'] at hcut
    · exact hq
  have hnode : t.nodes.lookup receipt.nodeId = some identity := by
    rw [hq.nodes]
    exact hn
  have hdone : t.completedReceipts.lookup receipt.receiptId = some receipt.jobId := by
    rw [hq.completedReceipts]
    exact AList.lookup_insert _
  have hok : orRefuse .unauthorized Denial.text (verifyReceipt cfg identity receipt) t = (.ok (), t) := by
    rw [hv]
    rfl
  unfold submitReceipt
  rw [hterm, ensure_true_bind, get_bind, hnode]
  dsimp only
  rw [bind_of_ok hok, if_pos hdone]
  rfl

/-- The outputs of a cut receipt that have no event are lost to the next startup, unless the node held
the same artifact on record anyway. -/
theorem cut_loses_outputs {receipt : ExecutionReceiptV1} {s : Host} {a : Assignment}
    (hs : settledBy cfg receipt s = some a) {output : ArtifactRefV1}
    (hnew : output.digest ∉ (receipt.outputs.take
      (taken w s.appends (receipt.outputs.length + 1) - 1)).map (·.digest))
    (hheld : ¬ HeldOn s.ledger output.digest receipt.nodeId) :
    (restart w (submitReceipt cfg w receipt s).2).2.artifactReplicas.lookup (output.digest, receipt.nodeId) = none := by
  apply lookup_restart_of_not_heldOn
  rw [submitReceipt_of_settled hs, settleReceipt_ledger]
  refine not_heldOn_append hheld ?_
  rintro event hevent held artifact node rfl hdigest
  apply hnew
  cases hk : taken w s.appends (receipt.outputs.length + 1) with
  | zero =>
    rw [hk] at hevent
    cases hevent
  | succ k =>
    rw [hk, receiptEvents, List.take_succ_cons, List.mem_cons, ← List.map_take] at hevent
    rcases hevent with h | h
    · cases h
    · obtain ⟨o, ho, heq⟩ := List.mem_map.1 h
      rw [outputEvent, Event.artifactHeld.injEq] at heq
      rw [Nat.add_sub_cancel]
      exact List.mem_map.2 ⟨o, ho, by rw [heq.2.1]; exact hdigest⟩

/-- In a run in which no settled receipt is cut between its event and its last output, a receipt that is
answered has its outputs recorded after the next startup. A receipt that the ledger cuts there is
answered as a duplicate from then on, and the outputs without an event are lost. -/
theorem outputs_are_kept_unless_cut (cfg : Config) (w : World) :
    (∀ epoch artifactHead ops, (cutMachine cfg w).Meets (Uncut cfg w) ops (initial epoch artifactHead) →
      let s := (cutMachine cfg w).exec ops (initial epoch artifactHead)
      ∀ receipt,
        (∀ r, .jobReceipted r ∈ s.ledger → r.receiptId = receipt.receiptId → r.jobId = receipt.jobId → r = receipt) →
        (submitReceipt cfg w receipt s).1.isOk = true → ∀ output ∈ receipt.outputs,
          ((restart w (submitReceipt cfg w receipt s).2).2.artifactReplicas.lookup
            (output.digest, receipt.nodeId)).isSome = true) ∧
      ∀ s receipt, (settledBy cfg receipt s).isSome = true →
        ¬ leavesAll receipt (taken w s.appends (receipt.outputs.length + 1)) →
        let t := (submitReceipt cfg w receipt s).2
        submitReceipt cfg w receipt t = (.ok ⟨.ok, receipt.receiptId, receipt.state, true⟩, t) ∧
          ∀ output : ArtifactRefV1, output.digest ∉ (receipt.outputs.take
              (taken w s.appends (receipt.outputs.length + 1) - 1)).map (·.digest) →
            ¬ HeldOn s.ledger output.digest receipt.nodeId →
            (restart w t).2.artifactReplicas.lookup (output.digest, receipt.nodeId) = none := by
  constructor
  · intro epoch artifactHead ops huncut s receipt hsame hok output ho
    have h : Accounted s := accounted_run epoch artifactHead huncut
    exact lookup_restart_of_heldOn (h.answered hsame hok output ho)
  · intro s receipt hs hcut t
    obtain ⟨a, ha⟩ := Option.isSome_iff_exists.1 hs
    exact ⟨submitReceipt_after_cut ha fun h0 => hcut (Or.inl h0), fun output hnew hheld =>
      cut_loses_outputs ha hnew hheld⟩

namespace Scenario

/-- The digest of the output. -/
def outputDigest : String := "sha256:0123456789abcdef0123456789abcdef0123456789abcdef0123456789abcdef"

/-- The receipt of job 9 with one output. -/
def outputReceipt : ExecutionReceiptV1 :=
  { receipt 2 with outputs := [⟨"rampage.artifact-ref.v1", outputDigest, 1, "text/plain", .cache, true⟩] }

/-- Job 9 is admitted and claimed. -/
def claimed : List Op := setup ++ [.submitJob (job 9 "a"), .claimWork 77]

end Scenario

open Scenario in
/-- The ledger takes the receipt and refuses its output; the retry is answered as a duplicate, and the
next startup knows of no output. A crash after the receipt's event ends the same way. -/
theorem cut_receipt_loses_its_output :
    (let w := failingAt 7
      let s := (machine config w).exec claimed start
      let t := (submitReceipt config w outputReceipt s).2
      (submitReceipt config w outputReceipt s).1 = .error (internalError "disk full") ∧
        (submitReceipt config w outputReceipt t).1 = .ok ⟨.ok, 40, .succeeded, true⟩ ∧
        (restart w (submitReceipt config w outputReceipt t).2).2.artifactReplicas.lookup (outputDigest, 77) = none) ∧
      (let s := (machine config world).exec claimed start
      let t := crashInReceipt config world outputReceipt 1 s
      (submitReceipt config world outputReceipt t).1 = .ok ⟨.ok, 40, .succeeded, true⟩ ∧
        (restart world (submitReceipt config world outputReceipt t).2).2.artifactReplicas.lookup (outputDigest, 77) =
          none) := by
  constructor
  · intro w s t
    rw [restart_eq_foldl]
    decide +kernel
  · intro s t
    rw [restart_eq_foldl]
    unfold t crashInReceipt
    rw [restart_eq_foldl]
    decide +kernel

open Scenario in
/-- In the scenario the receipt is accepted and its output is known after a restart. -/
theorem output_is_kept :
    let s := (cutMachine config world).exec (claimed.map .op) (initial 0 fun _ => .error "missing")
    (submitReceipt config world outputReceipt s).1.isOk = true ∧
      ((restart world (submitReceipt config world outputReceipt s).2).2.artifactReplicas.lookup
        (outputDigest, 77)).isSome = true := by
  have hrun := (outputs_are_kept_unless_cut config world).1 0 (fun _ => .error "missing") (claimed.map .op)
    ⟨trivial, trivial, trivial, trivial, trivial, trivial⟩ outputReceipt
  have hstate : ((cutMachine config world).exec (claimed.map .op) (initial 0 fun _ => .error "missing")).ledger.all
        (fun e => e.kind != .jobReceipted) = true ∧
      (submitReceipt config world outputReceipt ((cutMachine config world).exec (claimed.map .op)
        (initial 0 fun _ => .error "missing"))).1.isOk = true := by
    decide +kernel
  obtain ⟨hledger, hok⟩ := hstate
  generalize (cutMachine config world).exec (claimed.map .op) (initial 0 fun _ => .error "missing") = s
    at hrun hledger hok ⊢
  refine ⟨hok, hrun ?_ hok _ (List.mem_singleton_self _)⟩
  intro r hr
  have hkind := List.all_eq_true.1 hledger _ hr
  simp [Event.kind] at hkind

end Rampage.Controller
