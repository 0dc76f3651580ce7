/-
Durable state under crashes and faults. A disk holds a state, every state it was in, and an adversary that lets single
operations fail. The process can die between any two operations, so what the next start finds is any state that was passed.

`Triple F I P x Q` is a Hoare triple with a crash condition: under the faults `F`, a run of `x` from a state that meets `P`
ends in a result and a state that meet `Q`, and it passes only states that meet `I`. `Keeps F I P x` is the triple of a
property that a run keeps. `Passes F P x B` says that a run of `x` from a state that meets `P` passes a state that meets `B`.
-/
import Rampage.Lib.Handler

/-- A state, the states passed on the way to it, and which operations fail, given what was passed. -/
structure Disk (σ ω : Type) where
  now : σ
  passed : List σ
  fails : List σ → ω → Bool

namespace Disk

variable {σ ω ε ε' α β : Type}

/-- A disk in a state, that has passed through it alone. -/
def start (s : σ) (fails : List σ → ω → Bool) : Disk σ ω := ⟨s, [s], fails⟩

/-- Read the state. -/
def read : Handler (Disk σ ω) ε σ := fun d => (.ok d.now, d)

/-- One operation: it fails by itself, or by a fault, and then changes nothing. -/
def perform (apply : ω → σ → Except ε σ) (fault : ε) (op : ω) : Handler (Disk σ ω) ε Unit := fun d =>
  if d.fails d.passed op then (.error fault, d)
  else match apply op d.now with
  | .error e => (.error e, d)
  | .ok s => (.ok (), { d with now := s, passed := s :: d.passed })

/-- The faults of a disk are `F` and it has passed only states that meet `I`. -/
structure Fine (F : List σ → ω → Bool) (I : σ → Prop) (d : Disk σ ω) : Prop where
  fails : d.fails = F
  now : d.now ∈ d.passed
  within : ∀ s ∈ d.passed, I s

theorem fine_start {F : List σ → ω → Bool} {I : σ → Prop} {s : σ} (h : I s) : (start s F).Fine F I := by
  refine ⟨rfl, List.mem_singleton_self s, ?_⟩
  intro t ht
  rw [List.mem_singleton.1 ht]
  exact h

/-- From a state of `P`, the program keeps to `I` all the way and ends in `Q`, faults or not. -/
def Triple (F : List σ → ω → Bool) (I P : σ → Prop) (x : Handler (Disk σ ω) ε α) (Q : Except ε α → σ → Prop) : Prop :=
  ∀ d, d.Fine F I → P d.now → (x d).2.Fine F I ∧ d.passed ⊆ (x d).2.passed ∧ Q (x d).1 (x d).2.now

/-- From a state of `P`, the program passes through a state of `B` where nothing fails. -/
def Passes (F : List σ → ω → Bool) (P : σ → Prop) (x : Handler (Disk σ ω) ε α) (B : σ → Prop) : Prop :=
  ∀ d, d.Fine F (fun _ => True) → P d.now → ∃ s ∈ (x d).2.passed, B s

section

variable {F : List σ → ω → Bool} {I P : σ → Prop} {Q : Except ε α → σ → Prop}

/-! ## Triples -/

theorem Triple.pure {a : α} (h : ∀ s, P s → Q (.ok a) s) : Triple F I P (pure a : Handler (Disk σ ω) ε α) Q :=
  fun d hd hp => ⟨hd, List.Subset.refl _, h d.now hp⟩

theorem Triple.fail {e : ε} (h : ∀ s, P s → Q (.error e) s) :
    Triple F I P (Handler.fail e : Handler (Disk σ ω) ε α) Q :=
  fun d hd hp => ⟨hd, List.Subset.refl _, h d.now hp⟩

theorem Triple.weaken {P' : σ → Prop} {Q' : Except ε α → σ → Prop} {x : Handler (Disk σ ω) ε α} (hx : Triple F I P' x Q')
    (hpre : ∀ s, P s → P' s) (hpost : ∀ r s, Q' r s → Q r s) : Triple F I P x Q := by
  intro d hd hp
  obtain ⟨hfine, hgrows, hq⟩ := hx d hd (hpre _ hp)
  exact ⟨hfine, hgrows, hpost _ _ hq⟩

theorem Triple.bind {x : Handler (Disk σ ω) ε α} {f : α → Handler (Disk σ ω) ε β} {R : Except ε β → σ → Prop}
    (hx : Triple F I P x Q) (hf : ∀ a, Triple F I (Q (.ok a)) (f a) R) (herror : ∀ e s, Q (.error e) s → R (.error e) s) :
    Triple F I P (x >>= f) R := by
  intro d hd hp
  have h := hx d hd hp
  rcases hrun : x d with ⟨e | a, d₁⟩
  · rw [hrun] at h
    rw [Handler.bind_of_error hrun]
    exact ⟨h.1, h.2.1, herror e _ h.2.2⟩
  · rw [hrun] at h
    rw [Handler.bind_of_ok hrun]
    obtain ⟨hfine, hgrows, hr⟩ := hf a d₁ h.1 h.2.2
    exact ⟨hfine, List.Subset.trans h.2.1 hgrows, hr⟩

/-- A first part that always answers. -/
theorem Triple.seq {x : Handler (Disk σ ω) ε α} {f : α → Handler (Disk σ ω) ε β} {P' : α → σ → Prop}
    {R : Except ε β → σ → Prop} (hx : Triple F I P x fun r s => ∃ a, r = .ok a ∧ P' a s)
    (hf : ∀ a, Triple F I (P' a) (f a) R) : Triple F I P (x >>= f) R := by
  refine Triple.bind hx (fun a => (hf a).weaken ?_ fun _ _ hs => hs) ?_
  · rintro s ⟨b, hb, hs⟩
    cases hb
    exact hs
  · rintro e s ⟨b, hb, -⟩
    cases hb

/-- The state that is read is the one the rest starts from. -/
theorem Triple.read_bind {f : σ → Handler (Disk σ ω) ε α} (hf : ∀ t, P t → Triple F I (fun s => s = t) (f t) Q) :
    Triple F I P (read >>= f) Q :=
  fun d hd hp => hf d.now hp d hd rfl

theorem Triple.perform {apply : ω → σ → Except ε σ} {fault : ε} {op : ω} {Q : Except ε Unit → σ → Prop}
    (hok : ∀ s s', P s → apply op s = .ok s' → I s' ∧ Q (.ok ()) s')
    (herror : ∀ s e, P s → apply op s = .error e → Q (.error e) s)
    (hfault : ∀ l, F l op = true → ∀ s, P s → Q (.error fault) s) :
    Triple F I P (Disk.perform apply fault op) Q := by
  intro d hd hp
  unfold Disk.perform
  split
  · rename_i hfails
    rw [hd.fails] at hfails
    exact ⟨hd, List.Subset.refl _, hfault _ hfails _ hp⟩
  · cases happly : apply op d.now with
    | error e => exact ⟨hd, List.Subset.refl _, herror _ e hp happly⟩
    | ok s =>
      obtain ⟨hi, hq⟩ := hok _ s hp happly
      refine ⟨⟨hd.fails, List.mem_cons_self .., ?_⟩, List.subset_cons_self .., hq⟩
      intro t ht
      rcases List.mem_cons.1 ht with rfl | ht
      · exact hi
      · exact hd.within t ht

/-- A part whose failure is a value. -/
theorem Triple.result_bind {x : Handler (Disk σ ω) ε α} {f : Except ε α → Handler (Disk σ ω) ε' β}
    {R : Except ε' β → σ → Prop} (hx : Triple F I P x Q) (hf : ∀ r, Triple F I (Q r) (f r) R) :
    Triple F I P (Handler.result x >>= f) R := by
  intro d hd hp
  obtain ⟨hfine, hgrows, hq⟩ := hx d hd hp
  obtain ⟨hfine', hgrows', hr⟩ := hf (x d).1 (x d).2 hfine hq
  exact ⟨hfine', List.Subset.trans hgrows hgrows', hr⟩

/-- A loop: `P` says what holds when the elements of a list are still to come. -/
theorem Triple.forEach {f : α → Handler (Disk σ ω) ε Unit} {P : List α → σ → Prop} {Q : Except ε Unit → σ → Prop}
    (hf : ∀ a l, Triple F I (P (a :: l)) (f a) fun r s =>
      match r with
      | .ok _ => P l s
      | .error e => Q (.error e) s)
    (hend : ∀ s, P [] s → Q (.ok ()) s) : ∀ l : List α, Triple F I (P l) (Handler.forEach f l) Q
  | [] => Triple.pure hend
  | a :: l => Triple.bind (hf a l) (fun _ => Triple.forEach hf hend l) fun _ _ h => h

/-! ## Properties that are kept -/

/-- A run keeps `P`, whether it answers or fails. -/
def Keeps (F : List σ → ω → Bool) (I P : σ → Prop) (x : Handler (Disk σ ω) ε α) : Prop := Triple F I P x fun _ s => P s

theorem Keeps.pure (a : α) : Keeps F I P (pure a : Handler (Disk σ ω) ε α) := Triple.pure fun _ h => h

theorem Keeps.fail (e : ε) : Keeps F I P (Handler.fail e : Handler (Disk σ ω) ε α) := Triple.fail fun _ h => h

theorem Keeps.bind {x : Handler (Disk σ ω) ε α} {f : α → Handler (Disk σ ω) ε β} (hx : Keeps F I P x)
    (hf : ∀ a, Keeps F I P (f a)) : Keeps F I P (x >>= f) :=
  Triple.bind hx hf fun _ _ h => h

theorem Keeps.read_bind {f : σ → Handler (Disk σ ω) ε α} (hf : ∀ t, P t → Keeps F I P (f t)) : Keeps F I P (read >>= f) :=
  Triple.read_bind fun t ht => (hf t ht).weaken (fun _ hs => hs ▸ ht) fun _ _ h => h

theorem Keeps.perform {apply : ω → σ → Except ε σ} {fault : ε} {op : ω}
    (h : ∀ s s', P s → apply op s = .ok s' → I s' ∧ P s') : Keeps F I P (Disk.perform apply fault op) :=
  Triple.perform h (fun _ _ hs _ => hs) fun _ _ _ hs => hs

theorem Keeps.result_bind {x : Handler (Disk σ ω) ε α} {f : Except ε α → Handler (Disk σ ω) ε' β} (hx : Keeps F I P x)
    (hf : ∀ r, Keeps F I P (f r)) : Keeps F I P (Handler.result x >>= f) :=
  Triple.result_bind hx hf

theorem Keeps.forEach {f : α → Handler (Disk σ ω) ε Unit} : ∀ {l : List α}, (∀ a ∈ l, Keeps F I P (f a)) →
    Keeps F I P (Handler.forEach f l)
  | [], _ => Keeps.pure ()
  | a :: _, hf => Keeps.bind (hf a (List.mem_cons_self ..)) fun _ => Keeps.forEach fun b hb => hf b (List.mem_cons_of_mem _ hb)

/-! ## States that are passed -/

/-- The handler runs under `F` and forgets no state. -/
def Grows (F : List σ → ω → Bool) (x : Handler (Disk σ ω) ε α) : Prop := Keeps F (fun _ => True) (fun _ => True) x

/-- The state a run starts from is passed. -/
theorem Grows.passes {x : Handler (Disk σ ω) ε α} {B : σ → Prop} (hx : Grows F x) (h : ∀ s, P s → B s) : Passes F P x B := by
  intro d hd hp
  exact ⟨d.now, (hx d hd trivial).2.1 hd.now, h _ hp⟩

/-- What the second part passes, after a first part that answers. -/
theorem Passes.bind {x : Handler (Disk σ ω) ε α} {f : α → Handler (Disk σ ω) ε β} {B : σ → Prop} {P' : α → σ → Prop}
    (hx : Triple F (fun _ => True) P x fun r s => ∃ a, r = .ok a ∧ P' a s) (hf : ∀ a, Passes F (P' a) (f a) B) :
    Passes F P (x >>= f) B := by
  intro d hd hp
  have h := hx d hd hp
  rcases hrun : x d with ⟨e | a, d₁⟩
  · rw [hrun] at h
    obtain ⟨a, ha, -⟩ := h.2.2
    cases ha
  · rw [hrun] at h
    rw [Handler.bind_of_ok hrun]
    obtain ⟨a', ha, hp'⟩ := h.2.2
    cases ha
    exact hf a d₁ h.1 hp'

theorem Passes.bind_bind {γ : Type} {x : Handler (Disk σ ω) ε α} {f : α → Handler (Disk σ ω) ε β}
    {g : β → Handler (Disk σ ω) ε γ} {B : σ → Prop} (h : Passes F P (x >>= fun a => f a >>= g) B) :
    Passes F P ((x >>= f) >>= g) B := by
  intro d hd hp
  rw [Handler.bind_bind]
  exact h d hd hp

theorem Passes.read_bind {f : σ → Handler (Disk σ ω) ε α} {B : σ → Prop}
    (hf : ∀ t, P t → Passes F (fun s => s = t) (f t) B) : Passes F P (read >>= f) B :=
  fun d hd hp => hf d.now hp d hd rfl

theorem Passes.result_bind {x : Handler (Disk σ ω) ε α} {f : Except ε α → Handler (Disk σ ω) ε' β} {B : σ → Prop}
    {Q : Except ε α → σ → Prop} (hx : Triple F (fun _ => True) P x Q) (hf : ∀ r, Passes F (Q r) (f r) B) :
    Passes F P (Handler.result x >>= f) B := by
  intro d hd hp
  obtain ⟨hfine, -, hq⟩ := hx d hd hp
  exact hf (x d).1 (x d).2 hfine hq

end

end Disk
