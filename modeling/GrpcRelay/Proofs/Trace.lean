/-
  Traces — runs of a step relation together with the steps that they take, so
  that one can say what happened along a run (`Along`).
-/
import Mathlib.Data.List.Forall2
import Mathlib.Logic.Relation

namespace GrpcRelay

variable {W : Type} {R : W → W → Prop}

/-- A run from `w` and its steps, in order. -/
inductive Trace (R : W → W → Prop) (w : W) : List (W × W) → W → Prop
  | refl : Trace R w [] w
  | tail {t : List (W × W)} {u v : W} (h : Trace R w t u) (hs : R u v) : Trace R w (t ++ [(u, v)]) v

/-- A step of the kind `B` is among these. -/
def Along (B : W → W → Prop) (t : List (W × W)) : Prop := ∃ p ∈ t, B p.1 p.2

namespace Trace

variable {B : W → W → Prop} {P : W → Prop} {t : List (W × W)} {w w' : W} {p : W × W}

theorem run (h : Trace R w t w') : Relation.ReflTransGen R w w' := by
  induction h with
  | refl => exact .refl
  | tail _ hs ih => exact ih.tail hs

/-- Each step of a trace comes after a trace of its own and is followed by a run. -/
theorem split (h : Trace R w t w') (hp : p ∈ t) :
    ∃ t₁ t₂, t = t₁ ++ p :: t₂ ∧ Trace R w t₁ p.1 ∧ R p.1 p.2 ∧ Relation.ReflTransGen R p.2 w' := by
  induction h with
  | refl => cases hp
  | @tail t u v h hs ih =>
    rcases List.mem_append.1 hp with hp | hp
    · obtain ⟨t₁, t₂, rfl, h₁, hs₁, h₂⟩ := ih hp
      exact ⟨t₁, t₂ ++ [(u, v)], by simp, h₁, hs₁, h₂.tail hs⟩
    · rw [List.mem_singleton.1 hp]
      exact ⟨t, [], rfl, h, hs, .refl⟩

/-- What did not hold at first was brought about by a step on the way. -/
theorem along_of_not_initially (h₀ : ¬ P w) (hstep : ∀ {u v}, R u v → P v → P u ∨ B u v)
    (h : Trace R w t w') (hp : P w') : Along B t := by
  induction h with
  | refl => exact absurd hp h₀
  | @tail t u v h hs ih =>
    rcases hstep hs hp with hp | hb
    · obtain ⟨p, hmem, hb⟩ := ih hp
      exact ⟨p, List.mem_append_left _ hmem, hb⟩
    · exact ⟨(u, v), by simp, hb⟩

/-- What a step brings about and all steps keep, holds after a trace with such a step. -/
theorem holds_of_along (hB : ∀ {u v}, R u v → B u v → P v) (hR : ∀ {u v}, R u v → P u → P v)
    (h : Trace R w t w') (hb : Along B t) : P w' := by
  obtain ⟨p, hp, hb⟩ := hb
  obtain ⟨-, -, -, -, hs, hr⟩ := h.split hp
  clear h
  induction hr with
  | refl => exact hB hs hb
  | tail _ hs ih => exact hR hs ih

/-- A trace whose steps are all of the kind `B`. -/
theorem restrict (h : Trace R w t w') (hB : ∀ p ∈ t, B p.1 p.2) :
    Trace (fun u v => R u v ∧ B u v) w t w' := by
  induction h with
  | refl => exact .refl
  | @tail t u v h hs ih =>
    exact .tail (ih fun p hp => hB p (List.mem_append_left _ hp)) ⟨hs, hB (u, v) (by simp)⟩

/-- Where each step is matched by another, a trace is matched step by step. -/
theorem mirror {V : Type} {S : V → V → Prop} {M : W → V → Prop} {N : W × W → V × V → Prop} {v : V}
    (hstep : ∀ {w w' : W} {v : V}, M w v → R w w' → ∃ v', S v v' ∧ N (w, w') (v, v') ∧ M w' v')
    (h : Trace R w t w') (hm : M w v) :
    ∃ t' v', Trace S v t' v' ∧ List.Forall₂ N t t' ∧ M w' v' := by
  induction h with
  | refl => exact ⟨[], v, .refl, .nil, hm⟩
  | tail _ hs ih =>
    obtain ⟨t', v', ht', hN, hm'⟩ := ih
    obtain ⟨v'', hs', hn, hm''⟩ := hstep hm' hs
    exact ⟨t' ++ [(v', v'')], v'', ht'.tail hs', List.rel_append hN (.cons hn .nil), hm''⟩

/-- Where each step is matched by a step or by none, what can be seen of a trace can be seen of
    another. -/
theorem simulate {V O : Type} {S : V → V → Prop} {M : W → V → Prop} {f : W → O} {g : V → O} {v : V}
    (hstep : ∀ {w w' : W} {v : V}, M w v → R w w' → ∃ v', Relation.ReflGen S v v' ∧ M w' v')
    (hsame : ∀ {w : W} {v : V}, M w v → g v = f w) (h : Trace R w t w') (hm : M w v) :
    ∃ t' v', Trace (Relation.ReflGen S) v t' v' ∧ M w' v' ∧
      t'.map (fun p => g p.2) = t.map fun p => f p.2 := by
  obtain ⟨t', v', ht', hN, hm'⟩ := h.mirror (N := fun p q => g q.2 = f p.2)
    (fun hm hs => by
      obtain ⟨v', hs', hm'⟩ := hstep hm hs
      exact ⟨v', hs', hsame hm', hm'⟩) hm
  refine ⟨t', v', ht', hm', ?_⟩
  clear ht' hm' h
  induction hN with
  | nil => rfl
  | cons hsees _ ih => rw [List.map_cons, List.map_cons, hsees, ih]

end Trace

end GrpcRelay
