import ScriptPress.Proofs.Language.Spelling
import ScriptPress.Proofs.Url.Rooted
import ScriptPress.Service.Endpoint

/-!
# The addresses of an endpoint

Every language and action has an address of its own below an endpoint: two segments are put behind
the path, in place of a slash at its end. Main statement: on an endpoint of the web nothing but the
path changes, and it changes in this way.
-/
namespace ScriptPress

namespace Url

/-- A path without the slash that it ends with, if it does. -/
def withoutSlash (path : List Char) : List Char :=
  if path.getLast? = some '/' then path.dropLast else path

/-- What it takes to extend an address is a slash behind its scheme; otherwise there are no segments
that more could be put behind. -/
def extended? (u : Url) (segments : List (List Char)) : Option Url :=
  if u.afterScheme.head? = some '/' then some (u.extended segments) else none

theorem withoutEndSlash_eq {path : List Char} (h : 1 < path.length) :
    withoutEndSlash path = withoutSlash path := by
  simp [withoutEndSlash, withoutSlash, h]

theorem length_withoutSlash (path : List Char) : path.length ≤ (withoutSlash path).length + 1 := by
  unfold withoutSlash
  split
  · rw [List.length_dropLast]
    omega
  · omega

theorem withPathSegment_of_length {path : List Char} (segment : List Char) (h : path.length ≠ 1) :
    withPathSegment path segment = path ++ '/' :: segment := if_neg h

/-- Two segments behind a rooted path. Of the path `//` the first slash would be left, behind which
a segment is put without another. -/
theorem path_extended {path : List Char} (h : IsRooted path) (hne : path ≠ ['/', '/'])
    {first : List Char} (hfirst : first ≠ []) (second : List Char) :
    [first, second].foldl withPathSegment (withoutEndSlash path) =
      withoutSlash path ++ '/' :: (first ++ '/' :: second) := by
  show withPathSegment (withPathSegment (withoutEndSlash path) first) second = _
  obtain ⟨rest, rfl⟩ := h
  have hpos := List.length_pos_iff.mpr hfirst
  cases rest with
  | nil =>
    have hlength : ('/' :: first).length ≠ 1 := by
      rw [List.length_cons]
      omega
    exact withPathSegment_of_length second hlength
  | cons c rest =>
    have hfront : (withoutSlash ('/' :: c :: rest)).length ≠ 1 := by
      unfold withoutSlash
      split
      · rename_i hlast
        intro hone
        have hrest : rest = [] := by simpa using hone
        rw [hrest] at hlast
        have hc : c = '/' := Option.some.inj hlast
        exact hne (by rw [hrest, hc])
      · simp
    have hlength : (withoutSlash ('/' :: c :: rest) ++ '/' :: first).length ≠ 1 := by
      rw [List.length_append, List.length_cons]
      omega
    rw [withoutEndSlash_eq (by simp), withPathSegment_of_length first hfront,
      withPathSegment_of_length second hlength]
    simp

theorem text_with_path_inj (u : Url) {path path' : List Char}
    (h : ({ u with path := path } : Url).text = ({ u with path := path' } : Url).text) :
    path = path' := by
  simp only [text, List.append_cancel_left_eq, List.append_cancel_right_eq, List.cons.injEq,
    true_and] at h
  exact h

theorem extended_append_slash {u : Url} (hroot : IsRooted u.path) (hlast : u.path.getLast? ≠ some '/')
    (segments : List (List Char)) :
    ({ u with path := u.path ++ ['/'] } : Url).extended segments = u.extended segments := by
  have hslashed : withoutEndSlash (u.path ++ ['/']) = u.path := by
    obtain ⟨rest, hpath⟩ := hroot
    have hlength : 1 < (u.path ++ ['/']).length := by simp [hpath]
    rw [withoutEndSlash, if_pos ⟨hlength, List.getLast?_concat⟩, List.dropLast_concat]
  have hplain : withoutEndSlash u.path = u.path := if_neg fun h => hlast h.2
  simp only [extended, hslashed, hplain]

end Url

namespace Service

theorem Endpoint.url_of_ofText {text : String} {e : Endpoint} (h : Endpoint.ofText text = .ok e) :
    Url.ofText? text.toList = some e.url := by
  unfold Endpoint.ofText at h
  split at h
  · cases h
  · rename_i url hread
    split at h
    · obtain rfl := Except.ok.inj h
      exact hread
    · cases h

/-- Behind the same start, two pairs of a language and an action are told apart by their segments: no
identifier holds a slash. -/
theorem segments_inj {l l' : Language} {action action' : Action}
    (h : l.id.toList ++ '/' :: action.segment.toList =
      l'.id.toList ++ '/' :: action'.segment.toList) : l = l' ∧ action = action' := by
  have hid (l : Language) : ∀ c ∈ l.id.toList, (c != '/') = true :=
    List.all_eq_true.mp (by cases l <;> rfl)
  have hstops (s : List Char) : Text.Stops (· != '/') ('/' :: s) := Text.stops_cons s rfl
  obtain ⟨hlanguage, haction⟩ := Text.cut_unique (hid l) (hstops _) (hid l') (hstops _) h
  constructor
  · have hresolved := Language.resolve_id l
    rw [String.toList_inj.mp hlanguage, Language.resolve_id l'] at hresolved
    exact (Except.ok.inj hresolved).symm
  · have hsegment := String.toList_inj.mp (List.tail_eq_of_cons_eq haction)
    cases action <;> cases action' <;> first | rfl | exact absurd hsegment (by decide)

/-! ### Addresses below an endpoint -/

namespace Endpoint

theorem address_eq (e : Endpoint) (l : Language) (action : Action) :
    e.address l action = { e.url with
      path := [l.id.toList, action.segment.toList].foldl Url.withPathSegment
        (Url.withoutEndSlash e.url.path) } := rfl

theorem path_address {e : Endpoint} (hroot : Url.IsRooted e.url.path)
    (hne : e.url.path ≠ ['/', '/']) (l : Language) (action : Action) :
    (e.address l action).path =
      Url.withoutSlash e.url.path ++ '/' :: (l.id.toList ++ '/' :: action.segment.toList) := by
  have hid : l.id.toList ≠ [] := by cases l <;> decide
  rw [address_eq]
  exact Url.path_extended hroot hne hid action.segment.toList

theorem address_ne_url {e : Endpoint} (hroot : Url.IsRooted e.url.path)
    (hne : e.url.path ≠ ['/', '/']) (l : Language) (action : Action) :
    (e.address l action).text ≠ e.url.text := by
  intro h
  have hpath : (e.address l action).path = e.url.path := Url.text_with_path_inj e.url h
  have hlength := congrArg List.length hpath
  have hcut := Url.length_withoutSlash e.url.path
  rw [path_address hroot hne] at hlength
  simp only [List.length_append, List.length_cons] at hlength
  omega

theorem address_inj {e : Endpoint} (hroot : Url.IsRooted e.url.path)
    (hne : e.url.path ≠ ['/', '/']) {l l' : Language} {action action' : Action}
    (h : (e.address l action).text = (e.address l' action').text) : l = l' ∧ action = action' := by
  have hpath : (e.address l action).path = (e.address l' action').path :=
    Url.text_with_path_inj e.url h
  rw [path_address hroot hne, path_address hroot hne] at hpath
  exact segments_inj (List.tail_eq_of_cons_eq (List.append_cancel_left hpath))

/-- The addresses of an endpoint that was read. On the web, except below the path `//`, all but the
path is as in the endpoint, and the path goes on with the language and the action behind the slash
that it ends with or behind one more; so a slash more there makes no difference, no address is the
endpoint, and no two are the same. Whatever its scheme is, an endpoint can be extended. -/
theorem address_of_ofText (text : String) (e : Endpoint) (h : ofText text = .ok e) :
    (e.url.scheme = "http".toList ∨ e.url.scheme = "https".toList → e.url.path ≠ ['/', '/'] →
      (∀ l action,
        (e.address l action).scheme = e.url.scheme ∧
        (e.address l action).authority = e.url.authority ∧
        (e.address l action).query = e.url.query ∧
        (e.address l action).fragment = e.url.fragment ∧
        (e.address l action).path =
          Url.withoutSlash e.url.path ++ '/' :: (l.id.toList ++ '/' :: action.segment.toList)) ∧
      (∀ e' : Endpoint, e.url.path.getLast? ≠ some '/' →
        e'.url = { e.url with path := e.url.path ++ ['/'] } →
        ∀ l action, e'.address l action = e.address l action) ∧
      (∀ l action, (e.address l action).text ≠ e.url.text) ∧
      ∀ l action l' action', (e.address l action).text = (e.address l' action').text →
        l = l' ∧ action = action') ∧
    ∀ l action, e.url.extended? [l.id.toList, action.segment.toList] = some (e.address l action) := by
  have hread := url_of_ofText h
  refine ⟨fun hweb hne => ?_, fun l action => ?_⟩
  · obtain ⟨-, -, hroot⟩ := Url.parts_of_web hread hweb
    refine ⟨fun l action => ⟨rfl, rfl, rfl, rfl, path_address hroot hne l action⟩,
      fun e' hlast he' l action => ?_, address_ne_url hroot hne, fun _ _ _ _ => address_inj hroot hne⟩
    rw [address, he']
    exact Url.extended_append_slash hroot hlast _
  · rw [Url.extended?, if_pos ((Url.isExtensible_iff hread).mp e.isExtensible)]
    rfl

theorem ofText_of_read {text : String} {u : Url} (hread : Url.ofText? text.toList = some u)
    (h : u.isExtensible = true) : ofText text = .ok ⟨u, h⟩ := by
  simp only [ofText, hread, h, dite_true]

/-- Credentials, a port, a query and a fragment stay around a path that ends with a slash. -/
theorem address_of_ofText_everything :
    ∃ e, ofText "HTTPS://u:p@H:81/a//?q=/#f" = .ok e ∧ e.url.scheme = "https".toList ∧
      e.url.path = "/a//".toList ∧
      (e.address .javaScript .tryScript).path = "/a//javascript/parse-synvert-snippet".toList ∧
      (e.address .javaScript .tryScript).text ≠ (e.address .typeScript .tryScript).text := by
  have hread : Url.ofText? "HTTPS://u:p@H:81/a//?q=/#f".toList =
      some ⟨"https".toList, some ⟨['u'], ['p'], some (.domain ['h']), some 81⟩, false,
        "/a//".toList, some "q=/".toList, some ['f']⟩ := by
    decide +kernel
  have hofText := ofText_of_read hread rfl
  obtain ⟨hparts, -⟩ := address_of_ofText _ _ hofText
  obtain ⟨haddress, -, -, hinj⟩ := hparts (Or.inr rfl) (by decide)
  refine ⟨_, hofText, rfl, rfl, (haddress .javaScript .tryScript).2.2.2.2, fun h => ?_⟩
  obtain ⟨hlanguage, -⟩ := hinj _ _ _ _ h
  cases hlanguage

end Endpoint
end Service
end ScriptPress
