import Mathlib.Data.List.Basic
import ScriptPress.Proofs.Script.Lines
import ScriptPress.Proofs.Script.Scanning

/-!
# Reading scripts

A reader of scripts: from the text alone it recovers the family, the file pattern, the guards and
the body. It cuts the text into lines before it unescapes anything, and tells a guard from the line
that opens the block of files by the text in front of the first quote. Main statement: reading a
script gives what it was laid out from, so no two inputs have the same script.
-/
namespace ScriptPress.Script

/-- What a script shows: all that it was laid out from, but for the subject of its runtime guard. -/
structure Reading where
  family : Family
  filePattern : String
  runtimeSpec : Option String
  dependency : Option Requirement
  body : String
  deriving DecidableEq, Repr

theorem dropPrefix?_append {α : Type} [BEq α] [ReflBEq α] (p s : List α) :
    (p ++ s).dropPrefix? p = some s :=
  List.dropPrefix?_append_of_beq s BEq.rfl

/-! ### Literals -/

/-- The value of a literal at the start of a line, and what follows. Both families write literals
with the escapes of ECMAScript. -/
def literal? (quote : Char) (line : Line) : Option (List Char × Line) :=
  (line.dropPrefix? [quote]).bind (scan .ecmaScript quote)

theorem literal?_literal (quote : Char) (s rest : List Char) (hq : quote = '\'' ∨ quote = '"') :
    literal? quote (literal quote s ++ rest) = some (s, rest) := by
  have hscan : scan .ecmaScript quote (s.flatMap (escape quote) ++ quote :: rest) = some (s, rest) :=
    scan_escape _ quote s rest fun c _ => LiteralRules.readBack_ecmaScript quote c hq
  have hopen : literal quote s ++ rest =
      [quote] ++ (s.flatMap (escape quote) ++ quote :: rest) := by simp [literal]
  rw [literal?, hopen, dropPrefix?_append, Option.bind_some, hscan]

def literals? (quote : Char) : Nat → Line → Option (List (List Char) × Line)
  | 0, line => some ([], line)
  | 1, line => (literal? quote line).map fun p => ([p.1], p.2)
  | n + 2, line => do
    let (value, line) ← literal? quote line
    let line ← line.dropPrefix? [',', ' ']
    let (values, line) ← literals? quote (n + 1) line
    return (value :: values, line)

theorem literals?_joinWith (quote : Char) (values : List (List Char)) (rest : List Char)
    (hq : quote = '\'' ∨ quote = '"') :
    literals? quote values.length
        (Text.joinWith [',', ' '] (values.map (literal quote)) ++ rest) = some (values, rest) := by
  induction values with
  | nil => rfl
  | cons value values ih =>
    cases values with
    | nil =>
      have h := literal?_literal quote value rest hq
      simp only [List.map_cons, List.map_nil, Text.joinWith, List.length_singleton, literals?, h,
        Option.map_some]
    | cons next values =>
      have hjoin : Text.joinWith [',', ' '] ((value :: next :: values).map (literal quote)) ++ rest =
          literal quote value ++ ([',', ' '] ++
            (Text.joinWith [',', ' '] ((next :: values).map (literal quote)) ++ rest)) := by
        simp only [List.map_cons, Text.joinWith, List.append_assoc]
      have h := literal?_literal quote value
        ([',', ' '] ++ (Text.joinWith [',', ' '] ((next :: values).map (literal quote)) ++ rest)) hq
      rw [List.length_cons] at ih
      rw [hjoin, List.length_cons, List.length_cons, literals?, h]
      simp only [Option.bind_eq_bind, Option.bind_some, dropPrefix?_append, ih]
      rfl

/-! ### Statements -/

def Statement.values? (s : Statement) (quote : Char) (n : Nat) (line : Line) :
    Option (List (List Char)) := do
  let line ← line.dropPrefix? s.opening.toList
  let (values, line) ← literals? quote n line
  if line = s.closing.toList then some values else none

theorem Statement.values?_line (s : Statement) (quote : Char) (values : List (List Char))
    (hq : quote = '\'' ∨ quote = '"') :
    s.values? quote values.length (s.line (values.map (literal quote))) = some values := by
  have h := literals?_joinWith quote values s.closing.toList hq
  simp only [values?, line, List.append_assoc, dropPrefix?_append, Option.bind_eq_bind,
    Option.bind_some, h, ite_true]

theorem Statement.values?_of_dropPrefix? (s : Statement) (quote : Char) (n : Nat) (line : Line)
    (h : line.dropPrefix? s.opening.toList = none) : s.values? quote n line = none := by
  rw [values?, h]
  rfl

/-! ### Lines before the body -/

def runtimeSpec? (f : Frame) (line : Line) : Option String :=
  match f.runtime.values? f.quote 1 line with
  | some [spec] => some (String.ofList spec)
  | _ => none

def dependency? (f : Frame) (line : Line) : Option Requirement :=
  match f.dependency.values? f.quote 2 line with
  | some [subject, spec] => some ⟨String.ofList subject, String.ofList spec⟩
  | _ => none

def filePattern? (f : Frame) (line : Line) : Option String :=
  match f.files.values? '\'' 1 line with
  | some [pattern] => some (String.ofList pattern)
  | _ => none

theorem Frame.quote_cases (family : Family) :
    (ofFamily family).quote = '\'' ∨ (ofFamily family).quote = '"' := by
  cases family
  · exact Or.inl rfl
  · exact Or.inr rfl

theorem runtimeSpec?_runtimeLine (family : Family) (r : Requirement) :
    runtimeSpec? (Frame.ofFamily family) (runtimeLine (Frame.ofFamily family) r) = some r.spec := by
  have h := Statement.values?_line (Frame.ofFamily family).runtime _ [r.spec.toList]
    (Frame.quote_cases family)
  rw [List.map_singleton, List.length_singleton] at h
  rw [runtimeSpec?, runtimeLine, h]
  simp only [String.ofList_toList]

theorem dependency?_dependencyLine (family : Family) (r : Requirement) :
    dependency? (Frame.ofFamily family) (dependencyLine (Frame.ofFamily family) r) = some r := by
  have h := Statement.values?_line (Frame.ofFamily family).dependency _
    [r.subject.toList, r.spec.toList] (Frame.quote_cases family)
  simp only [List.map_cons, List.map_nil, List.length_cons, List.length_nil, Nat.zero_add,
    Nat.reduceAdd] at h
  rw [dependency?, dependencyLine, h]
  simp only [String.ofList_toList]

theorem filePattern?_filesLine (family : Family) (pattern : String) :
    filePattern? (Frame.ofFamily family) (filesLine (Frame.ofFamily family) pattern) =
      some pattern := by
  have h := Statement.values?_line (Frame.ofFamily family).files '\'' [pattern.toList]
    (Or.inl rfl)
  rw [List.map_singleton, List.length_singleton] at h
  rw [filePattern?, filesLine, h]
  simp only [String.ofList_toList]

theorem runtimeSpec?_dependencyLine (family : Family) (r : Requirement) :
    runtimeSpec? (Frame.ofFamily family) (dependencyLine (Frame.ofFamily family) r) = none := by
  rw [runtimeSpec?, Statement.values?_of_dropPrefix?]
  cases family <;> rfl

theorem runtimeSpec?_filesLine (family : Family) (pattern : String) :
    runtimeSpec? (Frame.ofFamily family) (filesLine (Frame.ofFamily family) pattern) = none := by
  rw [runtimeSpec?, Statement.values?_of_dropPrefix?]
  cases family <;> rfl

theorem dependency?_filesLine (family : Family) (pattern : String) :
    dependency? (Frame.ofFamily family) (filesLine (Frame.ofFamily family) pattern) = none := by
  rw [dependency?, Statement.values?_of_dropPrefix?]
  cases family <;> rfl

/-! ### Lines around the values -/

def readOptional {α : Type} (value? : Line → Option α) : List Line → Option α × List Line
  | [] => (none, [])
  | line :: rest =>
    match value? line with
    | some a => (some a, rest)
    | none => (none, line :: rest)

theorem readOptional_map {α β : Type} (value? : Line → Option α) (write : β → Line) (view : β → α)
    (o : Option β) (next : Line) (rest : List Line) (hsome : ∀ b, value? (write b) = some (view b))
    (hnone : value? next = none) :
    readOptional value? ((o.map write).toList ++ next :: rest) = (o.map view, next :: rest) := by
  cases o with
  | none =>
    show readOptional value? (next :: rest) = (none, next :: rest)
    rw [readOptional, hnone]
  | some b =>
    show readOptional value? (write b :: next :: rest) = (some (view b), next :: rest)
    rw [readOptional, hsome]

theorem readOptional_dependencyLine (family : Family) (o : Option Requirement) (pattern : String)
    (rest : List Line) :
    let f := Frame.ofFamily family
    readOptional (dependency? f) ((o.map (dependencyLine f)).toList ++ filesLine f pattern :: rest) =
      (o, filesLine f pattern :: rest) := by
  intro f
  have h := readOptional_map (dependency? f) (dependencyLine f) id o (filesLine f pattern) rest
    (dependency?_dependencyLine family) (dependency?_filesLine family pattern)
  rw [Option.map_id, id_eq] at h
  exact h

/-- Neither the dependency guard nor the line of the block of files is taken for a runtime guard. -/
theorem readOptional_runtimeLine (family : Family) (o d : Option Requirement) (pattern : String)
    (rest : List Line) :
    let f := Frame.ofFamily family
    let next := (d.map (dependencyLine f)).toList ++ filesLine f pattern :: rest
    readOptional (runtimeSpec? f) ((o.map (runtimeLine f)).toList ++ next) =
      (o.map Requirement.spec, next) := by
  intro f next
  cases d with
  | none =>
    exact readOptional_map (runtimeSpec? f) (runtimeLine f) Requirement.spec o _ _
      (runtimeSpec?_runtimeLine family) (runtimeSpec?_filesLine family pattern)
  | some r =>
    exact readOptional_map (runtimeSpec? f) (runtimeLine f) Requirement.spec o _ _
      (runtimeSpec?_runtimeLine family) (runtimeSpec?_dependencyLine family r)

def body? (lines : List Line) : Option String :=
  (lines.mapM fun line : Line => line.dropPrefix? bodyIndent).map fun pieces =>
    String.ofList (Text.joinWith ['\n'] pieces)

theorem body?_bodyLines (body : String) : body? (bodyLines body) = some body := by
  by_cases hb : body = ""
  · have hnone : body? [] = some (String.ofList []) := rfl
    rw [hb, bodyLines_empty, hnone, String.ofList_nil]
  · have hcut : ((fun line : Line => line.dropPrefix? bodyIndent) ∘ (bodyIndent ++ ·)) = pure := by
      funext piece
      exact dropPrefix?_append bodyIndent piece
    have hpieces : (bodyLines body).mapM (fun line : Line => line.dropPrefix? bodyIndent) =
        some (Text.splitOn '\n' body.toList) := by
      rw [bodyLines_of_ne_empty body hb, List.mapM_map, hcut]
      exact (List.mapM_pure (f := id)).trans (congrArg some (List.map_id _))
    rw [body?, hpieces, Option.map_some, Text.joinWith_splitOn, String.ofList_toList]

/-! ### Whole scripts -/

/-- Reads the lines of a script of a family, one after the other. -/
def Reading.ofLines? (family : Family) (lines : List Line) : Option Reading := do
  let f := Frame.ofFamily family
  let lines ← lines.dropPrefix? (f.header.map String.toList)
  let (runtimeSpec, lines) := readOptional (runtimeSpec? f) lines
  let (dependency, lines) := readOptional (dependency? f) lines
  let filePattern ← lines.head?.bind (filePattern? f)
  let inner ← lines.tail.dropSuffix? (f.closing.map String.toList)
  let body ← body? inner
  return { family, filePattern, runtimeSpec, dependency, body }

def Reading.ofText? (text : String) : Option Reading :=
  let lines := Text.splitOn '\n' text.toList
  (ofLines? .ruby lines).or (ofLines? .ecmaScript lines)

theorem Reading.ofLines?_lines (family : Family) (parts : Parts) :
    ofLines? family (lines (Frame.ofFamily family) parts) =
      some ⟨family, parts.filePattern, parts.runtime.map Requirement.spec, parts.dependency,
        parts.body⟩ := by
  let f := Frame.ofFamily family
  have hfiles : filePattern? f (filesLine f parts.filePattern) = some parts.filePattern :=
    filePattern?_filesLine family parts.filePattern
  have hinner : (bodyLines parts.body ++ f.closing.map String.toList).dropSuffix?
      (f.closing.map String.toList) = some (bodyLines parts.body) :=
    List.dropSuffix?_eq_some_iff.mpr ⟨_, rfl, BEq.rfl⟩
  show ofLines? family (lines f parts) = _
  rw [lines_eq, ofLines?]
  simp only [f, Option.bind_eq_bind, dropPrefix?_append, Option.bind_some] at *
  rw [readOptional_runtimeLine, readOptional_dependencyLine]
  simp only [List.head?_cons, Option.bind_some, List.tail_cons, hfiles, hinner, body?_bodyLines]
  rfl

theorem Reading.ofLines?_ruby_ecmaScript (parts : Parts) :
    ofLines? .ruby (lines (Frame.ofFamily .ecmaScript) parts) = none := rfl

theorem Reading.ofText?_combine (family : Family) (parts : Parts) :
    ofText? (combine family parts) =
      some ⟨family, parts.filePattern, parts.runtime.map Requirement.spec, parts.dependency,
        parts.body⟩ := by
  rw [ofText?, splitOn_combine]
  cases family with
  | ruby => rw [ofLines?_lines, Option.some_or]
  | ecmaScript => rw [ofLines?_ruby_ecmaScript, Option.none_or, ofLines?_lines]

/-- A script loses and confuses nothing: one reader gets back the family, the file pattern, the
guards and the body, so scripts with the same text were laid out from the same. -/
theorem combine_loses_nothing :
    (∀ family parts, Reading.ofText? (combine family parts) =
      some ⟨family, parts.filePattern, parts.runtime.map Requirement.spec, parts.dependency,
        parts.body⟩) ∧
    ∀ family family' parts parts', combine family parts = combine family' parts' →
      family = family' ∧ parts.filePattern = parts'.filePattern ∧
        parts.runtime.map Requirement.spec = parts'.runtime.map Requirement.spec ∧
        parts.dependency = parts'.dependency ∧ parts.body = parts'.body := by
  refine ⟨Reading.ofText?_combine, ?_⟩
  intro family family' parts parts' h
  have hl := Reading.ofText?_combine family parts
  have hr := Reading.ofText?_combine family' parts'
  rw [h, hr] at hl
  have he := Option.some.inj hl
  simp only [Reading.mk.injEq] at he
  obtain ⟨hfamily, hpattern, hruntime, hdependency, hbody⟩ := he
  exact ⟨hfamily.symm, hpattern.symm, hruntime.symm, hdependency.symm, hbody.symm⟩

end ScriptPress.Script
