import LinkCatalog.Proofs.Json.Tokens

/-!
# Reading written texts

The machine takes the tokens of a value from any place where a value may stand, and leaves the place
with the value. So the text of a value is read as that value, unless it is nested too deep.

## Main statements

- `Json.Machine.foldlM_tokens` — the machine and the tokens of a value
- `Json.parse?_compact` — writing and reading a value
-/

namespace LinkCatalog.Json

theorem ofMembers_map_some (members : List (String × Json)) :
    ofMembers (members.map fun member => (some member.1, member.2)) = .object members := by
  have hnames : ((members.map fun member => (some member.1, member.2)).mapM
      fun member : Option String × Json => member.1.map fun name => (name, member.2)) =
        some members := by
    induction members with
    | nil => rfl
    | cons member members ih =>
      rw [List.map_cons, List.mapM_cons, ih]
      rfl
  rw [ofMembers]
  split
  · next found hfound => rw [Option.some.inj (hfound.symm.trans hnames)]
  · next hfound => cases hfound.symm.trans hnames

namespace Machine

/-- A value may come next. -/
def ExpectsValue (machine : Machine) : Prop :=
  machine.next = .value ∨ machine.next = .itemOrEnd

theorem step_of_expectsValue {machine : Machine} {token : Token} (h : machine.ExpectsValue)
    (htoken : token ≠ .closeArray) : machine.step token = beginValue? machine.stack token := by
  obtain ⟨stack, next⟩ := machine
  rcases h with rfl | rfl
  · cases token <;> rfl
  · cases token <;> first | rfl | exact absurd rfl htoken

theorem foldlM_singleton {machine after : Machine} {token : Token} (h : machine.ExpectsValue)
    (htoken : token ≠ .closeArray) (hbegin : beginValue? machine.stack token = some after) :
    [token].foldlM step machine = some after := by
  rw [List.foldlM_cons, step_of_expectsValue h htoken, hbegin]
  rfl

/-- A name may come next, after some members. -/
def ExpectsName (next : Expectation) (before : List (Option String × Json)) : Prop :=
  next = .name before ∨ next = .nameOrEnd ∧ before = []

theorem step_name {next : Expectation} {before : List (Option String × Json)}
    (h : ExpectsName next before) (stack : List Frame) (name : Option String) :
    step ⟨stack, next⟩ (.string name) = some ⟨stack, .colon before name⟩ := by
  rcases h with rfl | ⟨rfl, rfl⟩ <;> rfl

theorem close_of_lt {stack : List Frame} (h : stack.length < maxOpen) (value : Json) :
    close stack value = { stack, next := .afterValue value } := by
  rw [close, if_pos h]

-- The stack and the items or members before are general, since what is nested is read on top of
-- them. The stack grows by one where the bound on the depth goes down by one.
mutual

/-- The machine reads the tokens of a value as that value. -/
theorem foldlM_tokens : ∀ (depth : Nat) (value : Json) (machine : Machine),
    value.hasText depth = true → machine.stack.length + depth ≤ maxOpen → machine.ExpectsValue →
    value.tokens.foldlM step machine =
      some { stack := machine.stack, next := .afterValue value }
  | _, .null, _, _, _, hnext | _, .bool _, _, _, _, hnext
  | _, .integer _, _, _, _, hnext | _, .string _, _, _, _, hnext =>
    foldlM_singleton hnext Token.noConfusion rfl
  | depth + 1, .array [], machine, _, hopen, hnext => by
    rw [tokens, List.cons_append, List.foldlM_cons, step_of_expectsValue hnext Token.noConfusion]
    show some (close machine.stack (.array [])) = _
    rw [close_of_lt (by omega)]
  | depth + 1, .array (item :: items), machine, h, hopen, hnext => by
    rw [tokens, List.cons_append, List.foldlM_cons, step_of_expectsValue hnext Token.noConfusion]
    refine (foldlM_itemTokens depth item items [] machine.stack _ h (by omega) (.inr rfl)).trans ?_
    rw [close_of_lt (by omega)]
    rfl
  | depth + 1, .object [], machine, _, hopen, hnext => by
    rw [tokens, List.cons_append, List.foldlM_cons, step_of_expectsValue hnext Token.noConfusion]
    show some (close machine.stack (.object [])) = _
    rw [close_of_lt (by omega)]
  | depth + 1, .object (member :: members), machine, h, hopen, hnext => by
    rw [tokens, List.cons_append, List.foldlM_cons, step_of_expectsValue hnext Token.noConfusion]
    refine (foldlM_memberTokens depth member members [] machine.stack .nameOrEnd h (by omega)
      (.inr ⟨rfl, rfl⟩)).trans ?_
    rw [close_of_lt (by omega), List.reverse_nil, List.nil_append, ofMembers_map_some]

theorem foldlM_itemTokens : ∀ (depth : Nat) (item : Json) (items before : List Json)
    (stack : List Frame) (next : Expectation), haveText depth (item :: items) = true →
    stack.length + 1 + depth ≤ maxOpen → ExpectsValue ⟨.array before :: stack, next⟩ →
    (itemTokens (item :: items) ++ [Token.closeArray]).foldlM step
        ⟨.array before :: stack, next⟩ =
      some (close stack (.array (before.reverse ++ item :: items)))
  | depth, item, [], before, stack, next, h, hopen, hnext => by
    simp only [haveText, Bool.and_true] at h
    rw [itemTokens, List.foldlM_append,
      foldlM_tokens depth item ⟨.array before :: stack, next⟩ h hopen hnext]
    show some (close stack (.array (item :: before).reverse)) = _
    rw [List.reverse_cons]
  | depth, item, second :: items, before, stack, next, h, hopen, hnext => by
    rw [haveText, Bool.and_eq_true] at h
    rw [itemTokens_cons_cons, List.append_assoc, List.foldlM_append,
      foldlM_tokens depth item ⟨.array before :: stack, next⟩ h.1 hopen hnext]
    refine (foldlM_itemTokens depth second items (item :: before) stack .value h.2 hopen
      (.inl rfl)).trans ?_
    rw [List.reverse_cons, List.append_assoc, List.singleton_append]

theorem foldlM_memberTokens : ∀ (depth : Nat) (member : String × Json)
    (members : List (String × Json)) (before : List (Option String × Json)) (stack : List Frame)
    (next : Expectation), membersHaveText depth (member :: members) = true →
    stack.length + 1 + depth ≤ maxOpen → ExpectsName next before →
    (memberTokens (member :: members) ++ [Token.closeObject]).foldlM step ⟨stack, next⟩ =
      some (close stack (ofMembers
        (before.reverse ++ (member :: members).map fun member => (some member.1, member.2))))
  | depth, (name, value), [], before, stack, next, h, hopen, hnext => by
    simp only [membersHaveText, Bool.and_true] at h
    rw [memberTokens, List.cons_append, List.foldlM_cons, step_name hnext]
    show (value.tokens ++ [Token.closeObject]).foldlM step
      ⟨.object before (some name) :: stack, .value⟩ = _
    rw [List.foldlM_append,
      foldlM_tokens depth value ⟨.object before (some name) :: stack, .value⟩ h hopen (.inl rfl)]
    show some (close stack (ofMembers ((some name, value) :: before).reverse)) = _
    rw [List.reverse_cons]
    rfl
  | depth, (name, value), second :: members, before, stack, next, h, hopen, hnext => by
    rw [membersHaveText, Bool.and_eq_true] at h
    rw [memberTokens_cons_cons, List.cons_append, List.foldlM_cons, step_name hnext]
    show (value.tokens ++ .comma :: memberTokens (second :: members) ++ [Token.closeObject]).foldlM
      step ⟨.object before (some name) :: stack, .value⟩ = _
    rw [List.append_assoc, List.foldlM_append,
      foldlM_tokens depth value ⟨.object before (some name) :: stack, .value⟩ h.1 hopen (.inl rfl)]
    refine (foldlM_memberTokens depth second members ((some name, value) :: before) stack _ h.2 hopen
      (.inl rfl)).trans ?_
    rw [List.reverse_cons, List.append_assoc]
    rfl

end

end Machine

/-- **Round trip.** The text of a value that is not nested too deep is read as that value. -/
theorem parse?_compact {value : Json} (h : value.hasText Machine.maxOpen = true) :
    parse? value.compact = some value := by
  have htokens : tokens? value.compact.toList = some value.tokens := by
    rw [compact, String.toList_ofList]
    exact tokens?_chars h
  have hmachine := Machine.foldlM_tokens Machine.maxOpen value Machine.start h
    (Nat.le_of_eq (Nat.zero_add _)) (.inl rfl)
  rw [parse?, htokens]
  show (value.tokens.foldlM Machine.step Machine.start >>= Machine.result?) = _
  rw [hmachine]
  rfl

end LinkCatalog.Json
