import ScriptPress.Proofs.Yaml.FlowTokens
import ScriptPress.Yaml.Node

/-!
# Flow mappings of scalars

The tokens of a JSON object are parsed as one flow mapping. Here are the single steps of it: the two
scalars of a member, the entry they become, the closing brace and the end of the document.
-/
namespace ScriptPress.Yaml

def feed (tokens : List Placed) : Feed := ⟨tokens, none, [], []⟩

@[simp] theorem tokens_feed (ps : List Placed) : (feed ps).tokens = ps := rfl

@[simp] theorem peek_feed (p : Placed) (rest : List Placed) :
    (feed (p :: rest)).peek = .ok p := rfl

@[simp] theorem skip_feed (p : Placed) (rest : List Placed) :
    (feed (p :: rest)).skip = feed rest := rfl

@[simp] theorem skipped_feed (p q : Placed) (rest : List Placed) :
    (feed (p :: q :: rest)).skipped = .ok (q, feed (q :: rest)) := rfl

/-! ### Members -/

theorem node_scalar (n : Nat) (place : Place) (p : Placed) (rest : List Placed) (text : List Char)
    (style : Style) (hp : p.token = .scalar text style) :
    node (n + 1) place (feed (p :: rest)) =
      ⟨.scalar p.start none none text style, .ok (feed rest)⟩ := by
  obtain ⟨token, began, stop⟩ := p
  obtain rfl : token = .scalar text style := hp
  rw [node.eq_def]
  rfl

theorem flowValue_scalar (n : Nat) (sign p : Placed) (rest : List Placed) (text : List Char)
    (style : Style) (hsign : sign.token = .value) (hp : p.token = .scalar text style) :
    flowValue (n + 2) (feed (sign :: p :: rest)) =
      ⟨.scalar p.start none none text style, .ok (feed rest)⟩ := by
  have hnode := node_scalar n .flow p rest text style hp
  rw [flowValue.eq_def]
  simp [hsign, hp, Token.endsFlowPart, hnode]

def entryOf (name value : Placed) (said : List Char × Option (List Char)) : Node × Node :=
  (.scalar name.start none none said.1 .doubleQuoted,
    match said.2 with
    | some s => .scalar value.start none none s .doubleQuoted
    | none => .scalar value.start none none ['n', 'u', 'l', 'l'] .plain)

theorem entry_member (n : Nat) (name sign value : Placed) (rest : List Placed)
    (said : List Char × Option (List Char)) (hname : name.token = .scalar said.1 .doubleQuoted)
    (hsign : sign.token = .value) (hvalue : value.token = Scanner.valueToken said.2) :
    (node (n + 2) .flow (feed (name :: sign :: value :: rest))).entry (flowValue (n + 2)) =
      ⟨entryOf name value said, .ok (feed rest)⟩ := by
  obtain ⟨text, text?⟩ := said
  rw [node_scalar (n + 1) .flow name _ text .doubleQuoted hname, Part.entry]
  cases text? with
  | some s =>
    dsimp only
    rw [flowValue_scalar n sign value rest s .doubleQuoted hsign hvalue]
    rfl
  | none =>
    dsimp only
    rw [flowValue_scalar n sign value rest ['n', 'u', 'l', 'l'] .plain hsign hvalue]
    rfl

theorem exists_member (ps : List Placed) (said : List Char × Option (List Char))
    (tokens : List Token) (h : ps.map Placed.token = Scanner.memberTokens said ++ tokens) :
    ∃ key name sign value rest, ps = key :: name :: sign :: value :: rest ∧ key.token = .key ∧
      name.token = .scalar said.1 .doubleQuoted ∧ sign.token = .value ∧
      value.token = Scanner.valueToken said.2 ∧ rest.map Placed.token = tokens := by
  simp only [Scanner.memberTokens, List.cons_append, List.nil_append, List.map_eq_cons_iff] at h
  obtain ⟨key, _, rfl, hkey, name, _, rfl, hname, sign, _, rfl, hsign, value, rest, rfl, hvalue,
    hrest⟩ := h
  exact ⟨key, name, sign, value, rest, rfl, hkey, hname, hsign, hvalue, hrest⟩

theorem flowEntries_member (n : Nat) (began : Mark) (first : Bool) (comma : List Placed)
    (key name sign value : Placed) (rest : List Placed) (said : List Char × Option (List Char))
    (hcomma : comma.map Placed.token = if first then [] else [.flowEntry]) (hkey : key.token = .key)
    (hname : name.token = .scalar said.1 .doubleQuoted) (hsign : sign.token = .value)
    (hvalue : value.token = Scanner.valueToken said.2) :
    flowEntries (n + 3) began first (feed (comma ++ key :: name :: sign :: value :: rest)) =
      .after ⟨entryOf name value said, .ok (feed rest)⟩ (flowEntries (n + 2) began false) := by
  have hstep : flowEntries (n + 3) began first
      (feed (comma ++ key :: name :: sign :: value :: rest)) =
        .after ((node (n + 2) .flow (feed (name :: sign :: value :: rest))).entry
          (flowValue (n + 2))) (flowEntries (n + 2) began false) := by
    rw [flowEntries.eq_def]
    cases first with
    | true =>
      obtain rfl : comma = [] := by simpa using hcomma
      simp [hkey, hname, Token.endsFlowPart]
    | false =>
      obtain ⟨p, rfl, hp⟩ : ∃ p, comma = [p] ∧ p.token = .flowEntry := by
        simpa [List.map_eq_singleton_iff] using hcomma
      simp [hp, hkey, hname, Token.endsFlowPart]
  rw [hstep, entry_member n name sign value rest said hname hsign hvalue]

theorem flowEntries_brace (n : Nat) (began : Mark) (first : Bool) (brace : Placed)
    (rest : List Placed) (hbrace : brace.token = .flowMappingEnd) :
    flowEntries (n + 1) began first (feed (brace :: rest)) = .ended (feed rest) := by
  rw [flowEntries.eq_def]
  simp [hbrace]

/-! ### Documents -/

theorem node_mapping (n : Nat) (brace : Placed) (rest : List Placed)
    (hbrace : brace.token = .flowMappingStart) :
    node (n + 1) .block (feed (brace :: rest)) =
      (flowEntries n brace.start true (feed rest)).node (.mapping brace.start none) := by
  obtain ⟨token, began, stop⟩ := brace
  obtain rfl : token = .flowMappingStart := hbrace
  rw [node.eq_def]
  rfl

theorem close_ended (root : Node) (last : Placed) (hlast : last.token = .streamEnd) :
    Document.close ⟨root, .ok (feed [last])⟩ = ⟨root, none, false⟩ := by
  simp [Document.close, atStreamEnd, hlast]

theorem ofFeed_mapping (brace : Placed) (rest : List Placed)
    (hbrace : brace.token = .flowMappingStart) :
    Document.ofFeed (feed (brace :: rest)) =
      Document.close (node (4 * (brace :: rest).length + 4) .block (feed (brace :: rest))) := by
  simp [Document.ofFeed, hbrace, Document.isSeparator]

end ScriptPress.Yaml
