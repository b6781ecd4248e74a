import Mathlib.Data.List.TakeWhile
import ScriptPress.Url.Reader

/-!
# Rooted paths

What is known of an address once it was read: an address of the web has an authority and a path that
starts with a slash. Main statements: every path that is read segment by segment from a slash keeps
it, and an address can be extended exactly if a slash stands behind its scheme.
-/
namespace ScriptPress.Url

def IsRooted (path : List Char) : Prop := ∃ rest, path = '/' :: rest

theorem IsRooted.append {path : List Char} (h : IsRooted path) (more : List Char) :
    IsRooted (path ++ more) := by
  obtain ⟨rest, rfl⟩ := h
  exact ⟨rest ++ more, rfl⟩

theorem IsRooted.of_isPrefix {path front : List Char} (h : IsRooted path) (hfront : front <+: path)
    (hne : front ≠ []) : IsRooted front := by
  obtain ⟨rest, rfl⟩ := h
  cases front with
  | nil => exact absurd rfl hne
  | cons c front =>
    obtain ⟨rfl, -⟩ := List.cons_prefix_cons.mp hfront
    exact ⟨front, rfl⟩

/-! ### Segments -/

theorem uptoSlash_isPrefix (path : List Char) : uptoSlash path <+: path := by
  have hcut := List.takeWhile_append_dropWhile (p := (· ≠ '/')) (l := path.reverse)
  have hback := congrArg List.reverse hcut
  rw [List.reverse_append, List.reverse_reverse] at hback
  exact ⟨_, hback⟩

theorem IsRooted.uptoSlash {path : List Char} (h : IsRooted path) : IsRooted (uptoSlash path) := by
  apply h.of_isPrefix (uptoSlash_isPrefix path)
  obtain ⟨rest, rfl⟩ := h
  intro hnil
  have hall := List.dropWhile_eq_nil_iff.mp (List.reverse_eq_nil_iff.mp hnil)
  have hslash := hall '/' (by simp)
  simp at hslash

theorem IsRooted.slashed {path : List Char} (h : IsRooted path) : IsRooted (slashed path) := by
  unfold Url.slashed
  split
  · exact h
  · exact h.append _

theorem IsRooted.withoutLast {path : List Char} (kind : SchemeKind) (h : IsRooted path) :
    IsRooted (withoutLast kind path) := by
  obtain ⟨rest, rfl⟩ := h
  unfold Url.withoutLast
  dsimp only
  split
  · exact ⟨rest, rfl⟩
  · exact IsRooted.uptoSlash ⟨rest, rfl⟩

theorem IsRooted.dropLast {path : List Char} (h : IsRooted path) (hslash : lastSlashCanGo path = true) :
    IsRooted path.dropLast := by
  apply h.of_isPrefix (List.dropLast_prefix path)
  intro hnil
  simp [lastSlashCanGo, hnil] at hslash

theorem IsRooted.withSegment {path : List Char} (kind : SchemeKind) (segment : List Char)
    (ended : Bool) (h : IsRooted path) : IsRooted (withSegment kind path segment ended) := by
  unfold Url.withSegment
  split
  · have hfront : IsRooted (if path.getLast? = some '/' ∧ lastSlashCanGo path = true
        then path.dropLast else path) := by
      split
      · rename_i hslash
        exact h.dropLast hslash.2
      · exact h
    dsimp only
    split
    · exact (hfront.withoutLast kind).slashed
    · exact hfront.withoutLast kind
  · split
    · exact h.slashed
    · exact (h.append _).append _

theorem IsRooted.withSegments {path : List Char} (kind : SchemeKind) (segment s : List Char)
    (h : IsRooted path) : IsRooted (withSegments kind path segment s) := by
  induction s generalizing path segment with
  | nil => exact h.withSegment kind _ false
  | cons c s ih =>
    rw [Url.withSegments]
    split
    · exact ih [] (h.withSegment kind _ true)
    · exact ih _ h

theorem isRooted_pathAfter (s : List Char) : IsRooted (pathAfter .web s) := by
  have hroot : IsRooted ['/'] := ⟨[], rfl⟩
  cases s with
  | nil => exact hroot
  | cons c s => exact hroot.withSegments .web [] _

/-! ### Addresses that were read -/

theorem ite_bind {α β : Type} (c : Prop) [Decidable c] (x y : Option α) (next : α → Option β) :
    (if c then x.bind next else y.bind next) = (if c then x else y).bind next := by
  split <;> rfl

theorem parts_of_afterSlashes? {kind : SchemeKind} {scheme s : List Char} {u : Url}
    (h : afterSlashes? kind scheme s = some u) :
    u.scheme = scheme ∧ u.authority.isSome = true ∧ u.guarded = false ∧
      ∃ front, u.path = pathAfter kind front := by
  unfold afterSlashes? at h
  simp only [Option.bind_eq_bind, ite_bind, Option.bind_eq_some_iff] at h
  obtain ⟨_, -, _, -, _, -, h⟩ := h
  split at h
  · cases h
  · obtain rfl := Option.some.inj h
    exact ⟨rfl, rfl, rfl, _, rfl⟩

theorem parts_of_fileAfterSlashes? {s : List Char} {u : Url} (h : fileAfterSlashes? s = some u) :
    u.scheme = "file".toList ∧ u.guarded = false := by
  unfold fileAfterSlashes? at h
  simp only [Option.bind_eq_bind, Option.pure_def] at h
  split at h
  · obtain rfl := Option.some.inj h
    exact ⟨rfl, rfl⟩
  · split at h
    · obtain rfl := Option.some.inj h
      exact ⟨rfl, rfl⟩
    · obtain ⟨host, -, h⟩ := Option.bind_eq_some_iff.mp h
      split at h
      · obtain rfl := Option.some.inj h
        exact ⟨rfl, rfl⟩
      · obtain rfl := Option.some.inj h
        exact ⟨rfl, rfl⟩

theorem parts_of_afterFile? {s : List Char} {u : Url} (h : afterFile? s = some u) :
    u.scheme = "file".toList ∧ u.guarded = false := by
  unfold afterFile? at h
  split at h
  · split at h
    · exact parts_of_fileAfterSlashes? h
    · obtain rfl := Option.some.inj h
      exact ⟨rfl, rfl⟩
  · obtain rfl := Option.some.inj h
    exact ⟨rfl, rfl⟩

theorem parts_of_afterOther? {scheme s : List Char} {u : Url} (h : afterOther? scheme s = some u) :
    u.scheme = scheme ∧ (u.guarded = true → IsRooted u.path) := by
  unfold afterOther? at h
  split at h
  · obtain ⟨hscheme, -, hguarded, -⟩ := parts_of_afterSlashes? h
    refine ⟨hscheme, fun hg => ?_⟩
    rw [hguarded] at hg
    cases hg
  · obtain rfl := Option.some.inj h
    refine ⟨rfl, fun _ => ?_⟩
    exact IsRooted.withSegments .other [] _ ⟨[], rfl⟩
  · obtain rfl := Option.some.inj h
    refine ⟨rfl, fun hg => ?_⟩
    cases hg

theorem isRooted_of_guarded {s : List Char} {u : Url} (h : ofText? s = some u)
    (hg : u.guarded = true) : IsRooted u.path := by
  unfold ofText? at h
  split at h
  · cases h
  · rename_i scheme rest _
    split at h
    · rw [(parts_of_afterFile? h).2] at hg
      cases hg
    · rw [(parts_of_afterSlashes? h).2.2.1] at hg
      cases hg
    · exact (parts_of_afterOther? h).2 hg

theorem parts_of_web {s : List Char} {u : Url} (h : ofText? s = some u)
    (hweb : u.scheme = "http".toList ∨ u.scheme = "https".toList) :
    u.authority.isSome = true ∧ u.guarded = false ∧ IsRooted u.path := by
  have hkind : SchemeKind.ofScheme u.scheme = .web := by
    rcases hweb with hscheme | hscheme <;> rw [hscheme] <;> rfl
  unfold ofText? at h
  split at h
  · cases h
  · rename_i scheme rest _
    split at h
    · rename_i hfile
      rw [(parts_of_afterFile? h).1] at hkind
      cases hkind
    · obtain ⟨-, hauthority, hguarded, front, hpath⟩ := parts_of_afterSlashes? h
      rw [hpath]
      exact ⟨hauthority, hguarded, isRooted_pathAfter front⟩
    · rename_i hother
      rw [(parts_of_afterOther? h).1, hother] at hkind
      cases hkind

/-! ### What can be extended -/

def afterScheme (u : Url) : List Char := u.text.drop (u.scheme.length + 1)

/-- An address can be extended exactly if a slash stands behind its scheme. -/
theorem isExtensible_iff {s : List Char} {u : Url} (h : ofText? s = some u) :
    u.isExtensible = true ↔ u.afterScheme.head? = some '/' := by
  have hdrop (rest : List Char) : (u.scheme ++ ':' :: rest).drop (u.scheme.length + 1) = rest := by
    have hlength : u.scheme.length + 1 = (u.scheme ++ [':']).length := by simp
    rw [List.append_cons, hlength, List.drop_left]
  rw [afterScheme, text, hdrop, isExtensible]
  cases u.authority with
  | some a => simp
  | none =>
    cases hg : u.guarded with
    | true =>
      obtain ⟨rest, hpath⟩ := isRooted_of_guarded h hg
      simp [hpath]
    | false =>
      cases u.path with
      | cons c rest => simp
      | nil => cases u.query <;> cases u.fragment <;> simp

end ScriptPress.Url
