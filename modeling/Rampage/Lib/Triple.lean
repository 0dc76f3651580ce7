/-
Triples for handlers. `Triple I x Q E` says that from every state in `I` the handler `x` answers in `Q` or fails in `E`.
A handler is a function, so this is total correctness. The rules follow the handlers: one for each primitive, `bind`, and
a loop rule whose invariant is indexed by the part of the list that was done.
-/
import Rampage.Lib.Handler

namespace Handler

variable {σ ε α β : Type}

/-- From every state in `I` the handler answers in `Q` or fails in `E`. -/
def Triple (I : σ → Prop) (x : Handler σ ε α) (Q : α → σ → Prop) (E : σ → Prop) : Prop :=
  ∀ s, I s → (∀ a t, x s = (.ok a, t) → Q a t) ∧ ∀ e t, x s = (.error e, t) → E t

variable {I J : σ → Prop} {x : Handler σ ε α} {Q R : α → σ → Prop} {E F : σ → Prop}

/-! ## Using triples -/

/-- A relation to the first state that holds whatever the handler ends with. -/
theorem Triple.keeps {S : σ → σ → Prop} (h : ∀ s, Triple (fun t => t = s) x (fun _ t => S s t) (S s)) : Keeps S x := by
  intro s
  rcases hx : x s with ⟨e | a, t⟩
  · exact (h s s rfl).2 e t hx
  · exact (h s s rfl).1 a t hx

/-- What every state of `I` and its successors satisfy. -/
theorem Keeps.triple_of {S : σ → σ → Prop} (h : Keeps S x) (hS : ∀ s t, I s → S s t → J t) :
    Triple I x (fun _ => J) J := by
  intro s hs
  refine ⟨fun a t hx => ?_, fun e t hx => ?_⟩
  · have := h s
    rw [hx] at this
    exact hS s t hs this
  · have := h s
    rw [hx] at this
    exact hS s t hs this

/-! ## Consequence -/

theorem Triple.weaken (h : Triple I x Q E) (hI : ∀ s, J s → I s) (hQ : ∀ a s, Q a s → R a s) (hE : ∀ s, E s → F s) :
    Triple J x R F :=
  fun s hs => ⟨fun a t hx => hQ a t ((h s (hI s hs)).1 a t hx), fun e t hx => hE t ((h s (hI s hs)).2 e t hx)⟩

theorem Triple.pre (h : Triple I x Q E) (hI : ∀ s, J s → I s) : Triple J x Q E :=
  h.weaken hI (fun _ _ => id) fun _ => id

/-- A fact that does not depend on the state. -/
theorem Triple.of_fact {p : Prop} (h : p → Triple I x Q E) : Triple (fun s => p ∧ I s) x Q E := fun s hs => h hs.1 s hs.2

/-- A triple for each state of `I`. -/
theorem Triple.of_forall (h : ∀ s, I s → Triple (fun t => t = s) x Q E) : Triple I x Q E := fun s hs => h s hs s rfl

/-! ## The rules -/

theorem Triple.pure {a : α} (h : ∀ s, I s → Q a s) : Triple I (Pure.pure a : Handler σ ε α) Q E := by
  intro s hs
  refine ⟨fun b t hx => ?_, fun e t hx => (by cases hx)⟩
  obtain ⟨rfl, rfl⟩ := pure_ok hx
  exact h s hs

theorem Triple.fail {e : ε} (h : ∀ s, I s → E s) : Triple I (fail e : Handler σ ε α) Q E := by
  intro s hs
  refine ⟨fun b t hx => (by cases hx), fun e' t hx => ?_⟩
  cases hx
  exact h s hs

theorem Triple.bind {f : α → Handler σ ε β} {R : β → σ → Prop} (hx : Triple I x Q E) (hf : ∀ a, Triple (Q a) (f a) R E) :
    Triple I (x >>= f) R E := by
  intro s hs
  rcases h : x s with ⟨e | a, t⟩
  · rw [bind_of_error h]
    refine ⟨fun b u hb => (by cases hb), fun e' u he => ?_⟩
    cases he
    exact (hx s hs).2 e t h
  · rw [bind_of_ok h]
    exact hf a t ((hx s hs).1 a t h)

theorem Triple.get {G : σ → σ → Prop} (h : ∀ s, I s → G s s) : Triple I (get : Handler σ ε σ) G E := by
  intro s hs
  refine ⟨fun b t hx => ?_, fun e t hx => (by cases hx)⟩
  cases hx
  exact h s hs

theorem Triple.modify {f : σ → σ} {G : Unit → σ → Prop} (h : ∀ s, I s → G () (f s)) :
    Triple I (modify f : Handler σ ε Unit) G E := by
  intro s hs
  refine ⟨fun b t hx => ?_, fun e t hx => (by cases hx)⟩
  cases hx
  exact h s hs

theorem Triple.ensure {c : Bool} {e : ε} {G : Unit → σ → Prop} (hok : ∀ s, I s → c = true → G () s)
    (hno : ∀ s, I s → c = false → E s) : Triple I (ensure c e) G E := by
  cases c with
  | true => exact .pure fun s hs => hok s hs rfl
  | false => exact .fail fun s hs => hno s hs rfl

theorem Triple.ofExcept {r : Except ε α} (hok : ∀ a s, r = .ok a → I s → Q a s) (hno : ∀ e s, r = .error e → I s → E s) :
    Triple I (ofExcept r) Q E := by
  cases r with
  | error e => exact .fail fun s hs => hno e s rfl hs
  | ok a => exact .pure fun s hs => hok a s rfl hs

theorem Triple.ite {c : Prop} [Decidable c] {y : Handler σ ε α} (hx : c → Triple I x Q E) (hy : ¬ c → Triple I y Q E) :
    Triple I (if c then x else y) Q E := by
  split
  · exact hx ‹_›
  · exact hy ‹_›

/-- The loop rule: the invariant is indexed by what was done. -/
theorem Triple.forEach {f : α → Handler σ ε Unit} {L : List α → σ → Prop} :
    ∀ {done rest : List α}, (∀ pre a post, rest = pre ++ a :: post →
      Triple (L (done ++ pre)) (f a) (fun _ => L (done ++ pre ++ [a])) E) →
      Triple (L done) (forEach f rest) (fun _ => L (done ++ rest)) E
  | done, [], _ => .pure fun s hs => by rwa [List.append_nil]
  | done, a :: rest, h => by
    have hfirst : Triple (L done) (f a) (fun _ => L (done ++ [a])) E := by
      simpa using h [] a rest rfl
    refine hfirst.bind fun _ => ?_
    have hnext := @Triple.forEach f L (done ++ [a]) rest fun pre b post hsplit => by
      simpa [List.append_assoc] using h (a :: pre) b post (by rw [hsplit, List.cons_append])
    simpa [List.append_assoc] using hnext

end Handler
