/-!
# Questions at a terminal

The three kinds of questions, and how the keys that are typed answer them. A choice starts at its
first item and stops at both ends; an entry stays open until its text is acceptable; a confirmation
is answered by a letter or by the choice made with the arrows. Main statement: an answer takes at
least one key, so a finite list of keys answers finitely many questions.
-/
namespace ScriptPress.Prompt

inductive Key where
  | char (c : Char)
  | enter
  | up
  | down
  | backspace
  | escape
  deriving DecidableEq, Repr

/-- The key that sends a character; a tab and other control characters are no keys. -/
def Key.ofChar? (c : Char) : Option Key :=
  if c = '\n' ∨ c = '\r' then some .enter
  else if c = '\x7f' ∨ c = '\x08' then some .backspace
  else if c = '\x1b' then some .escape
  else if c.toNat < 0x20 then none
  else some (.char c)

/-- A text that is asked for: what is taken when nothing is typed, whether something has to be
given, and what is wrong with a text, if anything. -/
structure Entry where
  title : String
  initial : String
  required : Bool
  problem? : String → Option String

/-- A question. -/
inductive Question where
  | choice (title : String) (items : List String)
  | entry (e : Entry)
  | confirmation (title : String) (initial : Bool)

/-- What answers a question: the number of an item, a text, or yes or no. -/
def Question.Answer : Question → Type
  | .choice _ items => Fin items.length
  | .entry _ => String
  | .confirmation _ _ => Bool

/-! ### Typing -/

def chosen? {n : Nat} (i : Fin n) : List Key → Option (Fin n × List Key)
  | [] => none
  | .enter :: keys => some (i, keys)
  | .up :: keys => chosen? ⟨i.val - 1, by omega⟩ keys
  | .down :: keys =>
    if h : i.val + 1 < n then chosen? ⟨i.val + 1, h⟩ keys else chosen? i keys
  | .escape :: _ => none
  | _ :: keys => chosen? i keys

/-- The text of an entry that Enter ends, if it is acceptable. -/
def Entry.accepted? (e : Entry) (typed : List Char) : Option String :=
  let text := if typed.isEmpty then e.initial else String.ofList typed
  if e.required && text == "" then none
  else if (e.problem? text).isSome then none
  else some text

def entered? (e : Entry) (typed : List Char) : List Key → Option (String × List Key)
  | [] => none
  | .char c :: keys => entered? e (typed ++ [c]) keys
  | .backspace :: keys => entered? e typed.dropLast keys
  | .enter :: keys =>
    match e.accepted? typed with
    | some text => some (text, keys)
    | none => entered? e typed keys
  | .escape :: _ => none
  | .up :: keys => entered? e typed keys
  | .down :: keys => entered? e typed keys

def confirmed? (current : Bool) : List Key → Option (Bool × List Key)
  | [] => none
  | .enter :: keys => some (current, keys)
  | .up :: keys => confirmed? (!current) keys
  | .down :: keys => confirmed? (!current) keys
  | .escape :: _ => none
  | .char c :: keys =>
    if c = 'y' ∨ c = 'Y' then some (true, keys)
    else if c = 'n' ∨ c = 'N' then some (false, keys)
    else confirmed? current keys
  | .backspace :: keys => confirmed? current keys

/-- The answer that keys type, and the keys after it; none if the question stays open. -/
def Question.answer? : (q : Question) → List Key → Option (q.Answer × List Key)
  | .choice _ items, keys =>
    if h : 0 < items.length then chosen? (⟨0, h⟩ : Fin items.length) keys else none
  | .entry e, keys => entered? e [] keys
  | .confirmation _ initial, keys => confirmed? initial keys

/-! ### Progress -/

theorem chosen?_length {n : Nat} (i j : Fin n) (keys rest : List Key)
    (h : chosen? i keys = some (j, rest)) : rest.length < keys.length := by
  fun_induction chosen? i keys with
  | case1 => simp at h
  | case2 i keys => simp_all
  | case3 i keys ih => exact Nat.lt_succ_of_lt (ih h)
  | case4 i keys hi ih => exact Nat.lt_succ_of_lt (ih h)
  | case5 i keys hi ih => exact Nat.lt_succ_of_lt (ih h)
  | case6 => simp at h
  | case7 i k keys _ _ _ _ ih => exact Nat.lt_succ_of_lt (ih h)

theorem entered?_length (e : Entry) (typed : List Char) (text : String) (keys rest : List Key)
    (h : entered? e typed keys = some (text, rest)) : rest.length < keys.length := by
  induction keys generalizing typed with
  | nil => cases h
  | cons k keys ih =>
    cases k with
    | char c => exact Nat.lt_succ_of_lt (ih _ h)
    | backspace => exact Nat.lt_succ_of_lt (ih _ h)
    | up => exact Nat.lt_succ_of_lt (ih _ h)
    | down => exact Nat.lt_succ_of_lt (ih _ h)
    | escape => cases h
    | enter =>
      rw [entered?] at h
      split at h
      · cases h
        exact Nat.lt_succ_self _
      · exact Nat.lt_succ_of_lt (ih _ h)

theorem confirmed?_length (current b : Bool) (keys rest : List Key)
    (h : confirmed? current keys = some (b, rest)) : rest.length < keys.length := by
  fun_induction confirmed? current keys with
  | case1 => simp at h
  | case2 => simp_all
  | case3 current keys ih => exact Nat.lt_succ_of_lt (ih h)
  | case4 current keys ih => exact Nat.lt_succ_of_lt (ih h)
  | case5 => simp at h
  | case6 => simp_all
  | case7 => simp_all
  | case8 current c keys _ _ ih => exact Nat.lt_succ_of_lt (ih h)
  | case9 current keys ih => exact Nat.lt_succ_of_lt (ih h)

theorem Question.answer?_length (q : Question) (a : q.Answer) (keys rest : List Key)
    (h : q.answer? keys = some (a, rest)) : rest.length < keys.length := by
  cases q with
  | choice title items =>
    change (if h : 0 < items.length then chosen? (⟨0, h⟩ : Fin items.length) keys else none :
      Option (Fin items.length × List Key)) = some (a, rest) at h
    split at h
    · exact chosen?_length _ _ _ _ h
    · exact absurd h (by simp)
  | entry e => exact entered?_length e [] a keys rest h
  | confirmation title initial => exact confirmed?_length initial a keys rest h

end ScriptPress.Prompt
