/-
Reading receipts back: `list_receipts` and `shard_set_status`. Both look at the first hundred events about a job, and every
attempt to submit a job adds one or two, so that a receipt is listed exactly if it is among the first hundred. A run
in which every receipt is recorded on that page, and no record of an output fails after its receipt's, lists all it
accepted and reports the latest one of every shard (`accepted_receipts_are_visible`).
-/
import Rampage.Controller.Once

namespace Rampage.Controller

open Rampage.Protocol Rampage.Planner Rampage.Governor Rampage.Ledger Handler

/-! ## The two readers -/

/-- `list_receipts`. -/
def listReceipts (jobId : Uuid) : Request (List ExecutionReceiptV1) := do
  let s ← get
  pure (recordedReceipts (eventsForSubject s.ledger (.id jobId) 100))

/-- What the status of a set says of one shard. -/
inductive MemberStatus
  | succeeded | failed | ambiguous | running | admitted
deriving DecidableEq

/-- The status a receipt gives its shard. -/
def MemberStatus.ofState : JobState → MemberStatus
  | .succeeded => .succeeded
  | .failed => .failed
  | _ => .ambiguous

/-- An entry of `members`. The result it also has is the receipt's. -/
structure ShardMember where
  jobId : Uuid
  nodeId : Option Uuid
  status : MemberStatus
  receiptId : Option Uuid
deriving DecidableEq

/-- What it says of the set. -/
inductive SetStatus
  | succeeded | failed | running
deriving DecidableEq

/-- The answer of `GET /v1/shard-sets/{id}`. -/
structure ShardSetStatus where
  setId : Uuid
  status : SetStatus
  total : Nat
  succeeded : Nat
  failed : Nat
  terminal : Nat
  minimumSuccesses : Nat
  thresholdMet : Bool
  thresholdStillPossible : Bool
  members : List ShardMember
deriving DecidableEq

/-- The receipts of the jobs, in the order they go into the map. -/
def pagedReceipts (l : List Event) (jobIds : List Uuid) : List ExecutionReceiptV1 :=
  jobIds.flatMap fun jobId => recordedReceipts (eventsForSubject l (.id jobId) 100)

/-- The map from a job to its receipt: a later one takes the place of an earlier one. -/
def latestReceipts (l : List Event) (jobIds : List Uuid) : Table Uuid ExecutionReceiptV1 :=
  Table.insertAll ((pagedReceipts l jobIds).map fun receipt => (receipt.jobId, receipt)) ∅

/-- The entry of a shard. -/
def shardMember (record : ShardSetRecord) (assignments : Table Uuid Assignment) (receipts : Table Uuid ExecutionReceiptV1)
    (job : JobSpecV1) : ShardMember where
  jobId := job.jobId
  nodeId := ((record.leases.filter (·.jobId == job.jobId)).getLast?).map (·.nodeId)
  status := match receipts.lookup job.jobId with
    | some receipt => .ofState receipt.state
    | none => match assignments.lookup job.jobId with
      | some a => if a.claimed then .running else .admitted
      | none => .ambiguous
  receiptId := (receipts.lookup job.jobId).map (·.receiptId)

/-- `shard_set_status`. -/
def shardSetStatus (setId : Uuid) : Request ShardSetStatus := do
  let s ← get
  match s.shardSets.lookup setId with
  | none => fail { status := .notFound, error := "shard set is absent" }
  | some record =>
    let jobIds := (record.spec.shards.map (·.jobId)).dedup.insertionSort fun a b => a ≤ b
    let receipts := latestReceipts s.ledger jobIds
    let states := record.spec.shards.filterMap fun job => (receipts.lookup job.jobId).map (·.state)
    let succeeded := states.count .succeeded
    let failed := states.count .failed
    let terminal := succeeded + failed
    let total := record.spec.shards.length
    pure {
      setId := setId
      status :=
        if terminal = total ∧ record.spec.minimumSuccesses ≤ succeeded then .succeeded
        else if terminal = total then .failed
        else .running
      total := total
      succeeded := succeeded
      failed := failed
      terminal := terminal
      minimumSuccesses := record.spec.minimumSuccesses
      thresholdMet := record.spec.minimumSuccesses ≤ succeeded
      thresholdStillPossible := record.spec.minimumSuccesses ≤ succeeded + (total - terminal)
      members := record.spec.shards.map (shardMember record s.assignments receipts) }

/-! ## The first page of a job -/

/-- The events about a job. -/
def eventsAbout (l : List Event) (jobId : Uuid) : List Event := l.filter (·.subject == .id jobId)

theorem eventsForSubject_hundred (l : List Event) (jobId : Uuid) :
    eventsForSubject l (.id jobId) 100 = (eventsAbout l jobId).take 100 := rfl

theorem eventsAbout_append (l l' : List Event) (jobId : Uuid) :
    eventsAbout (l ++ l') jobId = eventsAbout l jobId ++ eventsAbout l' jobId :=
  List.filter_append ..

/-- Every receipt is on the first page of the events about its job. -/
def OnFirstPage (l : List Event) : Prop :=
  ∀ jobId, recordedReceipts (eventsForSubject l (.id jobId) 100) = (recordedReceipts l).filter (·.jobId == jobId)

/-- Events without a receipt leave every receipt on its page. -/
theorem OnFirstPage.append {l es : List Event} (h : OnFirstPage l) (hes : recordedReceipts es = []) :
    OnFirstPage (l ++ es) := by
  intro jobId
  have hrest : recordedReceipts ((eventsAbout es jobId).take (100 - (eventsAbout l jobId).length)) = [] := by
    rw [List.eq_nil_iff_forall_not_mem] at hes ⊢
    intro receipt hr
    refine hes receipt (mem_recordedReceipts.2 ?_)
    exact List.mem_of_mem_filter (List.mem_of_mem_take (mem_recordedReceipts.1 hr))
  have hl := h jobId
  rw [eventsForSubject_hundred] at hl ⊢
  rw [eventsAbout_append, List.take_append, recordedReceipts_append, hrest, List.append_nil, hl,
    recordedReceipts_append, hes, List.append_nil]

/-- A receipt that is recorded while its job has fewer than a hundred events goes on the page. -/
theorem OnFirstPage.receipt {l : List Event} {receipt : ExecutionReceiptV1} (h : OnFirstPage l)
    (hfew : (eventsAbout l receipt.jobId).length < 100) : OnFirstPage (l ++ [.jobReceipted receipt]) := by
  intro jobId
  have hl := h jobId
  rw [eventsForSubject_hundred] at hl ⊢
  rw [eventsAbout_append, recordedReceipts_append, List.filter_append, ← hl]
  by_cases hj : receipt.jobId = jobId
  · subst hj
    have hnew : eventsAbout [Event.jobReceipted receipt] receipt.jobId = [.jobReceipted receipt] := by
      simp [eventsAbout, Event.subject]
    rw [hnew, List.take_of_length_le (by rw [List.length_append]; exact hfew), recordedReceipts_append,
      List.take_of_length_le (le_of_lt hfew)]
    simp [recordedReceipts]
  · have hnone : eventsAbout [Event.jobReceipted receipt] jobId = [] := by
      simp [eventsAbout, Event.subject, hj]
    rw [hnone, List.append_nil]
    simp [recordedReceipts, hj]

/-- Once a hundred events about a job are recorded, what `list_receipts` answers for it never changes again. -/
theorem listReceipts_of_full {s t : Host} {es : List Event} {jobId : Uuid} (hl : t.ledger = s.ledger ++ es)
    (h : 100 ≤ (eventsAbout s.ledger jobId).length) : (listReceipts jobId t).1 = (listReceipts jobId s).1 := by
  have hpage : eventsForSubject t.ledger (.id jobId) 100 = eventsForSubject s.ledger (.id jobId) 100 := by
    rw [hl, eventsForSubject_hundred, eventsForSubject_hundred, eventsAbout_append, List.take_append_of_le_length h]
  exact congrArg (fun events => Except.ok (recordedReceipts events)) hpage

/-! ## What a run accepted and what it lists -/

section

variable {cfg : Config} {w : World}

/-- The outputs of a receipt are recorded if the ledger takes their events. -/
theorem recordOutputs_ok {receipt : ExecutionReceiptV1} : ∀ {outputs : List ArtifactRefV1} {s : Host},
    (∀ i < outputs.length, w.appendFailure (s.appends + i) = none) →
      (forEach (recordOutput w receipt) outputs s).1 = .ok ()
  | [], _, _ => rfl
  | output :: outputs, s, h => by
    have h0 : w.appendFailure s.appends = none := h 0 (Nat.succ_pos _)
    have hfirst : recordOutput w receipt output s = (.ok (), { s with
        artifactReplicas := s.artifactReplicas.insert (output.digest, receipt.nodeId) output
        ledger := s.ledger ++ [.artifactHeld .outputRecorded output receipt.nodeId]
        appends := s.appends + 1 }) := by
      unfold recordOutput
      rw [modify_bind]
      simp only [Controller.append, h0]
    rw [forEach, bind_of_ok hfirst]
    refine recordOutputs_ok fun i hi => ?_
    show w.appendFailure (s.appends + 1 + i) = none
    rw [Nat.add_assoc, Nat.add_comm 1 i]
    exact h (i + 1) (Nat.succ_lt_succ hi)

/-- A receipt is accepted if the ledger takes its record and those of its outputs. -/
theorem settleReceipt_accepts {a : Assignment} {receipt : ExecutionReceiptV1} {s : Host}
    (happend : w.appendFailure s.appends = none)
    (houtputs : ∀ i < receipt.outputs.length, w.appendFailure (s.appends + 1 + i) = none) :
    (settleReceipt w a receipt s).1 = .ok ⟨.accepted, receipt.receiptId, receipt.state, false⟩ := by
  unfold settleReceipt
  rw [modify_bind]
  have h1 := @append_bind w (settleJob receipt.jobId a.job.idempotencyKey s) ReceiptReply (.jobReceipted receipt)
  rw [h1 _ happend, modify_bind]
  have h2 := @recordOutputs_ok w receipt receipt.outputs (receipted a receipt s) houtputs
  rcases h3 : forEach (recordOutput w receipt) receipt.outputs (receipted a receipt s) with ⟨e | u, t⟩
  · rw [h3] at h2
    cases h2
  · exact congrArg Prod.fst (bind_of_ok h3)

/-- A receipt that matches a stored assignment and has not been seen comes while its job has fewer than a hundred events,
and no record of its outputs fails. -/
def fitsFirstPage (w : World) (s : Host) : Op → Bool
  | .submitReceipt receipt =>
    match s.assignments.lookup receipt.jobId with
    | none => true
    | some a =>
      !receiptMatches a receipt s.fencingEpoch || s.completedReceipts.lookup receipt.receiptId == some receipt.jobId ||
        decide ((eventsAbout s.ledger receipt.jobId).length < 100) &&
          (List.range receipt.outputs.length).all fun i => (w.appendFailure (s.appends + 1 + i)).isNone
  | _ => true

/-- The ledger holds the receipts the run accepted, in order, and each on its page. -/
structure Shown (tr : List (Op × Reply)) (s : Host) : Prop where
  recorded : recordedReceipts s.ledger = accepted tr
  onPage : OnFirstPage s.ledger

theorem shown_initial (epoch : Nat) (head : String → Except String ArtifactRefV1) : Shown [] (initial epoch head) :=
  ⟨rfl, fun _ => rfl⟩

/-- A step that accepts nothing and records no receipt. -/
theorem Shown.skip {tr : List (Op × Reply)} {s t : Host} {op : Op} {r : Reply} {es : List Event} (h : Shown tr s)
    (hl : t.ledger = s.ledger ++ es) (hes : recordedReceipts es = []) (hr : r.isAccepted = false) :
    Shown (tr ++ [(op, r)]) t := by
  have hnone : acceptedReceipt (op, r) = none := by
    unfold acceptedReceipt
    split
    · rename_i hop
      rw [Prod.mk.injEq] at hop
      rw [← hop.2, hr]
      rfl
    · rfl
  refine ⟨?_, ?_⟩
  · rw [hl, recordedReceipts_append, hes, List.append_nil, h.recorded, accepted, accepted, List.filterMap_append]
    simp [hnone]
  · rw [hl]
    exact h.onPage.append hes

/-- The record of a receipt that is accepted. -/
theorem Shown.accept {tr : List (Op × Reply)} {s t : Host} {receipt : ExecutionReceiptV1} {r : Reply} {es : List Event}
    (h : Shown tr s) (hl : t.ledger = s.ledger ++ .jobReceipted receipt :: es) (hes : recordedReceipts es = [])
    (hr : r.isAccepted = true) (hfew : (eventsAbout s.ledger receipt.jobId).length < 100) :
    Shown (tr ++ [(.submitReceipt receipt, r)]) t := by
  rw [← List.singleton_append, ← List.append_assoc] at hl
  refine ⟨?_, ?_⟩
  · rw [hl, recordedReceipts_append, hes, List.append_nil, recordedReceipts_append, h.recorded, accepted, accepted,
      List.filterMap_append]
    simp [acceptedReceipt, hr, recordedReceipts]
  · rw [hl]
    exact (h.onPage.receipt hfew).append hes

theorem isAccepted_of_not {r : Except HttpError ReceiptReply} (h : ¬ IsAccepted r) : (Reply.receipt r).isAccepted = false := by
  cases r with
  | error e => rfl
  | ok a =>
    show (a.status == .accepted) = false
    rw [beq_eq_false_iff_ne]
    exact fun ha => h ⟨a, rfl, ha⟩

/-- A submission whose receipt fits is shown. -/
theorem Shown.submitReceipt {tr : List (Op × Reply)} {s : Host} {receipt : ExecutionReceiptV1} (h : Shown tr s)
    (hfits : fitsFirstPage w s (.submitReceipt receipt) = true) :
    Shown (tr ++ [(.submitReceipt receipt, .receipt (submitReceipt cfg w receipt s).1)]) (submitReceipt cfg w receipt s).2 := by
  rcases @submitReceipt_settles cfg w receipt s with ⟨hq, hno⟩ | ⟨a, stored, matching, unseen, hsettle⟩
  · exact h.skip (hq.ledger_eq.trans (List.append_nil _).symm) rfl (isAccepted_of_not hno)
  rw [hsettle]
  rcases settleReceipt_cases (w := w) a receipt s with ⟨_, hno, hstate⟩ | ⟨happend, hq⟩
  · have hledger : (settleReceipt w a receipt s).2.ledger = s.ledger ++ [] := by
      rw [hstate, List.append_nil]
      rfl
    exact h.skip hledger rfl (isAccepted_of_not hno)
  · obtain ⟨es, hes, hK⟩ := hq.events
    simp only [fitsFirstPage, stored, matching, Bool.not_true, Bool.false_or, Bool.or_eq_true, Bool.and_eq_true,
      beq_iff_eq, decide_eq_true_eq, List.all_eq_true, List.mem_range, Option.isNone_iff_eq_none] at hfits
    obtain ⟨hfew, houtputs⟩ := hfits.resolve_left unseen
    have hledger : (settleReceipt w a receipt s).2.ledger = s.ledger ++ .jobReceipted receipt :: es := by
      rw [hes]
      simp [receipted]
    refine h.accept hledger ?_ ?_ hfew
    · exact recordedReceipts_eq_nil fun e he => (neutral_of_recording (hK e he)).unclaiming.2
    · rw [settleReceipt_accepts happend houtputs]
      rfl

/-- Every step of which a receipt fits keeps what is shown. -/
theorem Shown.step {tr : List (Op × Reply)} {s : Host} {op : Op} (h : Shown tr s) (hfits : fitsFirstPage w s op = true) :
    Shown (tr ++ [(op, (step cfg w op s).1)]) (step cfg w op s).2 := by
  have hc := @step_change cfg w op s
  rcases hc.recordedReceipts with ⟨hsame, hno⟩ | ⟨receipt, a, rfl, _⟩
  · obtain ⟨es, hes⟩ := hc.ledger
    refine h.skip hes ?_ hno
    rw [hes, recordedReceipts_append] at hsame
    exact List.append_right_eq_self.1 hsame
  · exact h.submitReceipt hfits

/-! ## The latest receipt of a shard -/

theorem jobId_of_mem_page {l : List Event} {jobId : Uuid} {receipt : ExecutionReceiptV1}
    (h : receipt ∈ recordedReceipts (eventsForSubject l (.id jobId) 100)) : receipt.jobId = jobId := by
  have hmem := List.mem_of_mem_take (mem_recordedReceipts.1 h)
  simpa [Event.subject] using (List.mem_filter.1 hmem).2

/-- The receipts read for one job of a set. -/
theorem pagedReceipts_filter (l : List Event) {jobId : Uuid} : ∀ {jobIds : List Uuid}, jobIds.Nodup → jobId ∈ jobIds →
    (pagedReceipts l jobIds).filter (·.jobId == jobId) = recordedReceipts (eventsForSubject l (.id jobId) 100)
  | first :: rest, hn, hmem => by
    obtain ⟨hfirst, hrest⟩ := List.nodup_cons.1 hn
    have hsplit : pagedReceipts l (first :: rest) =
      recordedReceipts (eventsForSubject l (.id first) 100) ++ pagedReceipts l rest := rfl
    rw [hsplit, List.filter_append]
    by_cases hj : jobId = first
    · subst hj
      have hnone : (pagedReceipts l rest).filter (·.jobId == jobId) = [] := by
        rw [List.filter_eq_nil_iff]
        intro receipt hr hid
        obtain ⟨other, hother, hr⟩ := List.mem_flatMap.1 hr
        rw [beq_iff_eq, jobId_of_mem_page hr] at hid
        exact hfirst (hid ▸ hother)
      rw [hnone, List.append_nil, List.filter_eq_self]
      intro receipt hr
      exact beq_iff_eq.2 (jobId_of_mem_page hr)
    · have hnone : (recordedReceipts (eventsForSubject l (.id first) 100)).filter (·.jobId == jobId) = [] := by
        rw [List.filter_eq_nil_iff]
        intro receipt hr hid
        rw [beq_iff_eq, jobId_of_mem_page hr] at hid
        exact hj hid.symm
      rw [hnone, List.nil_append, pagedReceipts_filter l hrest ((List.mem_cons.1 hmem).resolve_left hj)]

/-- The map holds the last receipt on the page of each job. -/
theorem latestReceipts_lookup (l : List Event) {jobId : Uuid} {jobIds : List Uuid} (hn : jobIds.Nodup)
    (hmem : jobId ∈ jobIds) : (latestReceipts l jobIds).lookup jobId =
      (recordedReceipts (eventsForSubject l (.id jobId) 100)).getLast? := by
  have hkeyed : ((pagedReceipts l jobIds).map fun receipt => (receipt.jobId, receipt)).filter (·.1 == jobId) =
      ((pagedReceipts l jobIds).filter (·.jobId == jobId)).map fun receipt => (receipt.jobId, receipt) := by
    rw [List.filter_map]
    rfl
  rw [latestReceipts, Table.lookup_insertAll, hkeyed, pagedReceipts_filter l hn hmem, List.getLast?_map, Option.map_map]
  simp [Function.comp_def]

/-! ## Accepted receipts are visible -/

/-- The latest receipt for a job that a run accepted. -/
def latestAccepted (tr : List (Op × Reply)) (jobId : Uuid) : Option ExecutionReceiptV1 :=
  ((accepted tr).filter (·.jobId == jobId)).getLast?

/-- The entry shows this receipt and the status it gives the shard. -/
def ShardMember.Shows (member : ShardMember) (receipt : Option ExecutionReceiptV1) : Prop :=
  member.receiptId = receipt.map (·.receiptId) ∧ ∀ r, receipt = some r → member.status = .ofState r.state

/-- Every receipt the run accepted is listed, and the status of every shard set shows the latest of each of its jobs. -/
structure ReceiptsVisible (tr : List (Op × Reply)) (s : Host) : Prop where
  listed : ∀ receipt ∈ accepted tr, ∃ receipts, (listReceipts receipt.jobId s).1 = .ok receipts ∧ receipt ∈ receipts
  reported : ∀ setId record, s.shardSets.lookup setId = some record → ∃ status, (shardSetStatus setId s).1 = .ok status ∧
    List.Forall₂ (fun job member => member.jobId = job.jobId ∧ member.Shows (latestAccepted tr job.jobId))
      record.spec.shards status.members

theorem Shown.visible {tr : List (Op × Reply)} {s : Host} (h : Shown tr s) : ReceiptsVisible tr s := by
  have hpage : ∀ jobId, recordedReceipts (eventsForSubject s.ledger (.id jobId) 100) =
      (accepted tr).filter (·.jobId == jobId) := fun jobId => by rw [h.onPage, h.recorded]
  constructor
  · intro receipt hr
    refine ⟨_, rfl, ?_⟩
    rw [hpage]
    exact List.mem_filter.2 ⟨hr, beq_self_eq_true _⟩
  · intro setId record hrecord
    unfold shardSetStatus
    rw [get_bind, hrecord]
    refine ⟨_, rfl, ?_⟩
    rw [List.forall₂_map_right_iff, List.forall₂_same]
    intro job hjob
    -- the status looks each job of the set up once, however often the set names it
    have hjobIds : job.jobId ∈ (record.spec.shards.map (·.jobId)).dedup.insertionSort fun a b => a ≤ b := by
      rw [List.mem_insertionSort, List.mem_dedup]
      exact List.mem_map_of_mem hjob
    have hn : ((record.spec.shards.map (·.jobId)).dedup.insertionSort fun a b => a ≤ b).Nodup :=
      (List.perm_insertionSort _ _).nodup_iff.2 (List.nodup_dedup _)
    have hlookup := latestReceipts_lookup s.ledger hn hjobIds
    rw [hpage] at hlookup
    refine ⟨rfl, congrArg (Option.map fun receipt : ExecutionReceiptV1 => receipt.receiptId) hlookup, ?_⟩
    intro receipt hlatest
    unfold shardMember
    dsimp only
    rw [hlookup, show ((accepted tr).filter (·.jobId == job.jobId)).getLast? = some receipt from hlatest]

/-- In a run whose receipts all come while their job has fewer than a hundred events, and whose outputs are all recorded,
every accepted receipt is visible. -/
theorem accepted_receipts_are_visible (cfg : Config) (w : World) (epoch : Nat) (head : String → Except String ArtifactRefV1)
    (ops : List Op)
    (hfits : (machine cfg w).Meets (fun s op => fitsFirstPage w s op = true) ops (initial epoch head)) :
    ReceiptsVisible ((machine cfg w).trace ops (initial epoch head)) ((machine cfg w).exec ops (initial epoch head)) :=
  ((machine cfg w).invariant (C := fun s op => fitsFirstPage w s op = true) (I := Shown)
    (fun _ _ _ h hop => h.step hop) ops [] (initial epoch head) (shown_initial epoch head) hfits).visible

end

section

open Scenario

theorem accepted_receipts_are_visible_echo :
    let run := setup ++ [.submitJob (job 9 "k1"), .claimWork 77, .submitReceipt (receipt 2)]
    accepted ((machine config world).trace run start) = [receipt 2] ∧
      ReceiptsVisible ((machine config world).trace run start) ((machine config world).exec run start) := by
  intro run
  exact ⟨by decide +kernel, accepted_receipts_are_visible config world 0 _ run (by decide +kernel)⟩

/-- The job is refused fifty times for want of an offer, and then admitted, claimed and receipted. -/
def refusedFirst : List Op :=
  [.createInvite, .enrollNode enrollment] ++ List.replicate 50 (.submitJob (job 9 "k1")) ++
    [.background offered, .submitJob (job 9 "k1"), .claimWork 77, .submitReceipt (receipt 2)]

/-- The hundred events of the refusals fill the page: the accepted receipt is not listed. -/
theorem refusals_hide_receipt : ¬ ∀ (cfg : Config) (w : World) (epoch : Nat) (head : String → Except String ArtifactRefV1)
    (ops : List Op), ReceiptsVisible ((machine cfg w).trace ops (initial epoch head))
      ((machine cfg w).exec ops (initial epoch head)) := by
  intro h
  have haccepted : accepted ((machine config world).trace refusedFirst start) = [receipt 2] := by decide +kernel
  have hlist : (listReceipts 9 ((machine config world).exec refusedFirst start)).1 = .ok [] := by decide +kernel
  obtain ⟨receipts, hr, hmem⟩ := (h config world 0 (fun _ => .error "missing") refusedFirst).listed (receipt 2)
    (by rw [show accepted ((machine config world).trace refusedFirst (initial 0 _)) = [receipt 2] from haccepted]; simp)
  cases hr.symm.trans hlist
  cases hmem

end

end Rampage.Controller
