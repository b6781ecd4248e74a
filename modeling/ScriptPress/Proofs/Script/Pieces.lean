import ScriptPress.Proofs.Script.Scanning
import ScriptPress.Script.Layout

/-!
# The pieces of a script

A script as a list of pieces, in which the values that are written as literals are told apart from
the text around them. Main statements: the pieces put together are the script, and a value that the
rules of a language read back is scanned to the end of its literal wherever it stands.
-/
namespace ScriptPress.Script

/-- A piece of a script: text as it is, or a value in a literal. -/
inductive Piece where
  | plain (text : List Char)
  | value (quote : Char) (text : String)
  deriving DecidableEq, Repr

namespace Piece

def text : Piece → List Char
  | .plain s => s
  | .value quote s => literal quote s.toList

def value? : Piece → Option String
  | .plain _ => none
  | .value _ s => some s

def textOf (pieces : List Piece) : List Char := pieces.flatMap text

theorem textOf_cons (p : Piece) (ps : List Piece) : textOf (p :: ps) = p.text ++ textOf ps :=
  List.flatMap_cons

theorem textOf_append (ps qs : List Piece) : textOf (ps ++ qs) = textOf ps ++ textOf qs :=
  List.flatMap_append

theorem textOf_plain (s : List Char) : textOf [.plain s] = s := List.append_nil s

theorem textOf_value (quote : Char) (s : String) :
    textOf [.value quote s] = literal quote s.toList := List.append_nil _

def joined (sep : List Char) : List (List Piece) → List Piece
  | [] => []
  | [ps] => ps
  | ps :: next :: rest => ps ++ .plain sep :: joined sep (next :: rest)

theorem textOf_joined (sep : List Char) (groups : List (List Piece)) :
    textOf (joined sep groups) = Text.joinWith sep (groups.map textOf) := by
  induction groups with
  | nil => rfl
  | cons ps groups ih =>
    cases groups with
    | nil => rfl
    | cons next rest =>
      rw [List.map_cons] at ih
      rw [joined, textOf_append, textOf_cons, ih, List.map_cons, List.map_cons, Text.joinWith,
        List.append_assoc]
      rfl

theorem mem_joined (sep : List Char) (groups : List (List Piece)) (p : Piece)
    (h : p ∈ joined sep groups) : p = .plain sep ∨ ∃ ps ∈ groups, p ∈ ps := by
  induction groups with
  | nil => exact absurd h List.not_mem_nil
  | cons ps groups ih =>
    cases groups with
    | nil => exact Or.inr ⟨ps, List.mem_cons_self, h⟩
    | cons next rest =>
      rw [joined, List.mem_append, List.mem_cons] at h
      rcases h with h | h | h
      · exact Or.inr ⟨ps, List.mem_cons_self, h⟩
      · exact Or.inl h
      · rcases ih h with h | ⟨qs, hqs, h⟩
        · exact Or.inl h
        · exact Or.inr ⟨qs, List.mem_cons_of_mem ps hqs, h⟩

theorem filterMap_value?_joined (sep : List Char) (groups : List (List Piece)) :
    (joined sep groups).filterMap value? = groups.flatMap fun ps => ps.filterMap value? := by
  induction groups with
  | nil => rfl
  | cons ps groups ih =>
    cases groups with
    | nil => simp only [joined, List.flatMap_cons, List.flatMap_nil, List.append_nil]
    | cons next rest =>
      have hsep : (Piece.plain sep :: joined sep (next :: rest)).filterMap value? =
          (joined sep (next :: rest)).filterMap value? := rfl
      rw [joined, List.filterMap_append, hsep, ih]
      rfl

end Piece

/-! ### Lines in pieces -/

def Statement.pieces (s : Statement) (quote : Char) (values : List String) : List Piece :=
  .plain s.opening.toList ::
    (Piece.joined [',', ' '] (values.map fun v => [.value quote v]) ++ [.plain s.closing.toList])

def plainLines (ls : List Line) : List (List Piece) := ls.map fun line => [.plain line]

theorem map_textOf_plainLines (ls : List Line) : (plainLines ls).map Piece.textOf = ls := by
  rw [plainLines, List.map_map]
  exact (List.map_congr_left fun line _ => Piece.textOf_plain line).trans (List.map_id ls)

theorem values_plainLines (ls : List Line) :
    ((plainLines ls).flatMap fun ps => ps.filterMap Piece.value?) = [] := by
  rw [plainLines, List.flatMap_map]
  exact List.flatMap_eq_nil_iff.mpr fun line _ => rfl

def linePieces (f : Frame) (parts : Parts) : List (List Piece) :=
  plainLines (f.header.map String.toList) ++
    (parts.runtime.map fun r => f.runtime.pieces f.quote [r.spec]).toList ++
    (parts.dependency.map fun r => f.dependency.pieces f.quote [r.subject, r.spec]).toList ++
    [f.files.pieces '\'' [parts.filePattern]] ++
    plainLines (bodyLines parts.body) ++ plainLines (f.closing.map String.toList)

def pieces (f : Frame) (parts : Parts) : List Piece := Piece.joined ['\n'] (linePieces f parts)

theorem Statement.textOf_pieces (s : Statement) (quote : Char) (values : List String) :
    Piece.textOf (s.pieces quote values) =
      s.line (values.map fun v => literal quote v.toList) := by
  have hvalues : (values.map fun v => [Piece.value quote v]).map Piece.textOf =
      values.map fun v => literal quote v.toList := by
    rw [List.map_map]
    exact List.map_congr_left fun v _ => Piece.textOf_value quote v
  rw [pieces, Piece.textOf_cons, Piece.textOf_append, Piece.textOf_joined, hvalues,
    Piece.textOf_plain, line, List.append_assoc]
  rfl

theorem Statement.values_pieces (s : Statement) (quote : Char) (values : List String) :
    (s.pieces quote values).filterMap Piece.value? = values := by
  have hopen : (s.pieces quote values).filterMap Piece.value? =
      (Piece.joined [',', ' '] (values.map fun v => [.value quote v]) ++
        [Piece.plain s.closing.toList]).filterMap Piece.value? := rfl
  have hclose : [Piece.plain s.closing.toList].filterMap Piece.value? = [] := rfl
  rw [hopen, List.filterMap_append, hclose, List.append_nil, Piece.filterMap_value?_joined,
    List.flatMap_map]
  exact List.flatMap_singleton' values

theorem map_textOf_linePieces (f : Frame) (parts : Parts) :
    (linePieces f parts).map Piece.textOf = lines f parts := by
  have hruntime : (parts.runtime.map fun r => f.runtime.pieces f.quote [r.spec]).toList.map
      Piece.textOf = (parts.runtime.map (runtimeLine f)).toList := by
    cases parts.runtime with
    | none => rfl
    | some r => exact congrArg (fun line => [line]) (f.runtime.textOf_pieces f.quote [r.spec])
  have hdependency : (parts.dependency.map fun r =>
      f.dependency.pieces f.quote [r.subject, r.spec]).toList.map Piece.textOf =
      (parts.dependency.map (dependencyLine f)).toList := by
    cases parts.dependency with
    | none => rfl
    | some r =>
      exact congrArg (fun line => [line])
        (f.dependency.textOf_pieces f.quote [r.subject, r.spec])
  have hfiles : Piece.textOf (f.files.pieces '\'' [parts.filePattern]) =
      filesLine f parts.filePattern := f.files.textOf_pieces '\'' [parts.filePattern]
  simp only [linePieces, lines, openingLines, List.map_append, List.map_singleton,
    map_textOf_plainLines, hruntime, hdependency, hfiles]

theorem textOf_pieces (family : Family) (parts : Parts) :
    Piece.textOf (pieces (Frame.ofFamily family) parts) = (combine family parts).toList := by
  rw [pieces, Piece.textOf_joined, map_textOf_linePieces, combine, String.toList_ofList]

/-! ### Values -/

/-- The values that are written as literals, in the order in which they stand in a script. -/
def Parts.values (parts : Parts) : List String :=
  (parts.runtime.map Requirement.spec).toList ++
    (parts.dependency.map fun r => [r.subject, r.spec]).getD [] ++ [parts.filePattern]

theorem values_pieces (f : Frame) (parts : Parts) :
    (pieces f parts).filterMap Piece.value? = parts.values := by
  have hruntime : ((parts.runtime.map fun r => f.runtime.pieces f.quote [r.spec]).toList.flatMap
      fun ps => ps.filterMap Piece.value?) = (parts.runtime.map Requirement.spec).toList := by
    cases parts.runtime with
    | none => rfl
    | some r => exact (List.append_nil _).trans (f.runtime.values_pieces f.quote [r.spec])
  have hdependency : ((parts.dependency.map fun r =>
      f.dependency.pieces f.quote [r.subject, r.spec]).toList.flatMap
      fun ps => ps.filterMap Piece.value?) =
      (parts.dependency.map fun r => [r.subject, r.spec]).getD [] := by
    cases parts.dependency with
    | none => rfl
    | some r =>
      exact (List.append_nil _).trans (f.dependency.values_pieces f.quote [r.subject, r.spec])
  have hfiles := f.files.values_pieces '\'' [parts.filePattern]
  rw [pieces, Piece.filterMap_value?_joined, linePieces]
  simp only [List.flatMap_append, values_plainLines, hruntime, hdependency, List.flatMap_singleton,
    hfiles, List.nil_append, List.append_nil, Parts.values]

theorem Statement.quote_of_mem_pieces (s : Statement) (quote q : Char) (values : List String)
    (v : String) (h : .value q v ∈ s.pieces quote values) : q = quote := by
  rw [pieces, List.mem_cons, List.mem_append] at h
  rcases h with h | h | h
  · cases h
  · rcases Piece.mem_joined _ _ _ h with h | ⟨ps, hps, h⟩
    · cases h
    · rw [List.mem_map] at hps
      obtain ⟨w, _, rfl⟩ := hps
      cases List.mem_singleton.mp h
      rfl
  · cases List.mem_singleton.mp h

theorem quote_of_mem_pieces (f : Frame) (parts : Parts) (quote : Char) (v : String)
    (h : .value quote v ∈ pieces f parts) : quote = f.quote ∨ quote = '\'' := by
  have hplain : ∀ ls, ¬∃ ps ∈ plainLines ls, .value quote v ∈ ps := by
    rintro ls ⟨ps, hps, hmem⟩
    rw [plainLines, List.mem_map] at hps
    obtain ⟨line, _, rfl⟩ := hps
    cases List.mem_singleton.mp hmem
  rcases Piece.mem_joined _ _ _ h with h | ⟨ps, hps, hmem⟩
  · cases h
  · simp only [linePieces, List.mem_append, Option.mem_toList, Option.map_eq_some_iff,
      List.mem_singleton] at hps
    rcases hps with ((((hps | ⟨r, _, rfl⟩) | ⟨r, _, rfl⟩) | rfl) | hps) | hps
    · exact absurd ⟨ps, hps, hmem⟩ (hplain _)
    · exact Or.inl (Statement.quote_of_mem_pieces _ _ _ _ _ hmem)
    · exact Or.inl (Statement.quote_of_mem_pieces _ _ _ _ _ hmem)
    · exact Or.inr (Statement.quote_of_mem_pieces _ _ _ _ _ hmem)
    · exact absurd ⟨ps, hps, hmem⟩ (hplain _)
    · exact absurd ⟨ps, hps, hmem⟩ (hplain _)

theorem mem_values_of_mem_pieces (f : Frame) (parts : Parts) (quote : Char) (v : String)
    (h : .value quote v ∈ pieces f parts) : v ∈ parts.values := by
  rw [← values_pieces f parts, List.mem_filterMap]
  exact ⟨.value quote v, h, rfl⟩

/-- Where a value stands in a script, and what scanning it there gives: its literal ends at the
quote that was written last, and the scan goes no further. -/
theorem scan_of_pieces (family : Family) (parts : Parts) (rules : LiteralRules) (quote : Char)
    (v : String) (before after : List Piece)
    (hp : pieces (Frame.ofFamily family) parts = before ++ .value quote v :: after)
    (hread : ∀ c ∈ v.toList, rules.ReadBack quote c) :
    ∃ rest, (combine family parts).toList = Piece.textOf before ++ quote :: rest ∧
      scan rules quote rest = some (v.toList, Piece.textOf after) := by
  refine ⟨v.toList.flatMap (escape quote) ++ quote :: Piece.textOf after, ?_, ?_⟩
  · rw [← textOf_pieces, hp, Piece.textOf_append, Piece.textOf_cons]
    simp [Piece.text, literal]
  · exact scan_escape rules quote v.toList (Piece.textOf after) hread

end ScriptPress.Script
