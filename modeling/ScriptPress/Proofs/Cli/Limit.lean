import ScriptPress.Cli.Dialogue
import ScriptPress.Proofs.Run.Sequence

/-!
# The limit of a dialogue

A dialogue asks for pairs of example files as long as another one is wanted, and only a limit makes
that end. It is never felt: every answer takes a key, so with as many pairs as there are keys the
user has long run out of answers. Main statement: `play_dialogue_limit`; two limits that the keys do
not exceed make no difference.
-/
namespace ScriptPress

def Supply.keyCount (p : Supply) : Nat := (p.keys?.getD []).length

theorem Supply.keyCount_answer (p : Supply) (q : Prompt.Question) :
    (p.answer q).2.keyCount ≤ p.keyCount ∧
      ∀ a, (p.answer q).1 = .ok a → (p.answer q).2.keyCount < p.keyCount := by
  unfold Supply.answer
  split
  · refine ⟨Nat.le_refl _, fun a h => ?_⟩
    cases h
  · rename_i keys hkeys
    have hcount : p.keyCount = keys.length := by rw [keyCount, hkeys, Option.getD_some]
    split
    · refine ⟨Nat.zero_le _, fun a h => ?_⟩
      cases h
    · rename_i b rest hanswer
      have hrest := q.answer?_length b keys rest hanswer
      rw [hcount]
      exact ⟨Nat.le_of_lt hrest, fun _ _ => hrest⟩

namespace Run

variable {α β : Type}

theorem keyCount_remaining (w : World) (p : Supply) (m : Run α) :
    (remaining w p m).keyCount ≤ p.keyCount := by
  induction m generalizing p with
  | done a => exact Nat.le_refl _
  | fail r => exact Nat.le_refl _
  | readFile path next ih => exact ih _ p
  | readInput next ih => exact ih _ { p with input := [] }
  | send e next ih => exact ih _ p
  | ask q next ih => exact Nat.le_trans (ih _ _) (p.keyCount_answer q).1
  | note n next ih => exact ih p
  | writeFile path text next ih =>
    rw [remaining]
    cases w.refusal? path with
    | some fault => exact ih _ p
    | none => exact ih _ p
  | print text next ih => exact ih p

theorem remaining_bind (w : World) (p : Supply) (m : Run α) (f : α → Run β) :
    remaining w p (m >>= f) =
      match (play w p m).result with
      | .ok a => remaining w (remaining w p m) (f a)
      | .error _ => remaining w p m := by
  show remaining w p (m.bind f) = _
  induction m generalizing p with
  | done a => rfl
  | fail r => rfl
  | readFile path next ih => exact ih _ p
  | readInput next ih => exact ih _ _
  | send e next ih => exact ih _ p
  | ask q next ih => exact ih _ _
  | note n next ih => exact ih p
  | writeFile path text next ih =>
    simp only [bind, play, remaining]
    cases w.refusal? path with
    | some fault => exact ih _ p
    | none => exact ih _ p
  | print text next ih => exact ih p

structure SameIn (w : World) (p : Supply) (m m' : Run α) : Prop where
  played : play w p m = play w p m'
  left : remaining w p m = remaining w p m'

theorem SameIn.refl (w : World) (p : Supply) (m : Run α) : SameIn w p m m := ⟨rfl, rfl⟩

theorem SameIn.bind {w : World} {p : Supply} {m m' : Run α} {f g : α → Run β}
    (h : SameIn w p m m')
    (hnext : ∀ a, (play w p m).result = .ok a → SameIn w (remaining w p m) (f a) (g a)) :
    SameIn w p (m >>= f) (m' >>= g) := by
  constructor
  · rw [play_bind, play_bind, ← h.played, ← h.left, Story.followedBy, Story.followedBy]
    cases hresult : (play w p m).result with
    | ok a => exact congrArg (Story.precededBy · _) (hnext a hresult).played
    | error r => rfl
  · rw [remaining_bind, remaining_bind, ← h.played, ← h.left]
    cases hresult : (play w p m).result with
    | ok a => exact (hnext a hresult).left
    | error r => rfl

theorem SameIn.after {w : World} {p : Supply} {m : Run α} {f g : α → Run β}
    (hnext : ∀ a q, q.keyCount ≤ p.keyCount → SameIn w q (f a) (g a)) :
    SameIn w p (m >>= f) (m >>= g) :=
  (SameIn.refl w p m).bind fun a _ => hnext a _ (keyCount_remaining w p m)

theorem SameIn.after_answer {w : World} {p : Supply} {q : Prompt.Question} {f g : q.Answer → Run β}
    (hnext : ∀ a p', p'.keyCount < p.keyCount → SameIn w p' (f a) (g a)) :
    SameIn w p (answer q >>= f) (answer q >>= g) := by
  refine (SameIn.refl w p _).bind fun a h => hnext a _ ?_
  obtain ⟨-, hless⟩ := p.keyCount_answer q
  unfold answer at h ⊢
  rw [play] at h
  rw [remaining]
  cases hanswer : (p.answer q).1 with
  | ok b => exact hless b hanswer
  | error why =>
    rw [hanswer] at h
    cases h

theorem SameIn.play_endingWith {w : World} {p : Supply} {m m' : Run α} (h : SameIn w p m m')
    (n : Note) : play w p (m.endingWith n) = play w p (m'.endingWith n) := by
  rw [Run.play_endingWith, Run.play_endingWith, h.played]

end Run

namespace Cli

open Run (SameIn)

/-- Each pair takes some keys, so a limit above their number is not reached. -/
theorem sameIn_askPairs (w : World) (limit limit' i : Nat) (p : Supply) (s : Session)
    (h : p.keyCount < limit) (h' : p.keyCount < limit') :
    SameIn w p (askPairs limit i s) (askPairs limit' i s) := by
  induction limit generalizing limit' i p s with
  | zero => exact absurd h (Nat.not_lt_zero _)
  | succ limit ih =>
    cases limit' with
    | zero => exact absurd h' (Nat.not_lt_zero _)
    | succ limit' =>
      refine SameIn.after_answer fun input p₁ h₁ => ?_
      refine SameIn.after fun before p₂ h₂ => ?_
      refine SameIn.after_answer fun output p₃ h₃ => ?_
      refine SameIn.after fun after p₄ h₄ => ?_
      refine SameIn.after_answer fun more p₅ h₅ => ?_
      cases more with
      | true => exact ih limit' (i + 1) p₅ _ (by omega) (by omega)
      | false => exact .refl w p₅ _

theorem sameIn_askBody (w : World) (limit limit' : Nat) (p : Supply) (o : PromptOptions)
    (s : Session) (h : p.keyCount ≤ limit) (h' : p.keyCount ≤ limit') :
    SameIn w p (askBody limit o s) (askBody limit' o s) := by
  unfold askBody
  split
  · exact .refl w p _
  · split
    · exact .refl w p _
    · refine SameIn.after_answer fun way p₁ h₁ => ?_
      split
      · unfold inferBody
        split
        · exact .refl w p₁ _
        · refine SameIn.after fun e p₂ h₂ => ?_
          exact (sameIn_askPairs w limit limit' 0 p₂ s (by omega) (by omega)).bind
            fun _ _ => .refl w _ _
      · exact .refl w p₁ _
      · exact .refl w p₁ _

/-- As long as there are no more keys than pairs allowed, the limit makes no difference. -/
theorem play_dialogue_limit (w : World) (p : Supply) (o : PromptOptions) (limit limit' : Nat)
    (h : p.keyCount ≤ limit) (h' : p.keyCount ≤ limit') :
    Run.play w p (dialogue limit o) = Run.play w p (dialogue limit' o) := by
  have hsession : ∀ q, q.keyCount ≤ p.keyCount →
      SameIn w q (askSession limit o) (askSession limit' o) := by
    intro q hq
    refine SameIn.after fun language p₁ h₁ => ?_
    refine SameIn.after fun s₁ p₂ h₂ => ?_
    refine SameIn.after fun s₂ p₃ h₃ => ?_
    refine SameIn.after fun s₃ p₄ h₄ => ?_
    exact sameIn_askBody w limit limit' p₄ o s₃ (by omega) (by omega)
  refine SameIn.play_endingWith (SameIn.after fun _ q hq => ?_) .cursorShown
  exact (hsession q hq).bind fun s _ => .refl w _ _

end Cli
end ScriptPress
