import Mathlib.Data.List.Basic

/-!
# Masking of nested values

Values are leaves, arrays and objects, nested in any way.  Masking replaces what
stands under the hidden keys by one leaf.  Two values have the same mask if and
only if they agree outside the hidden keys; what stands elsewhere is found in
the mask at the same path.
-/

namespace PaymentPortal.Nested

/-- Nested values; an object lists its members in order. -/
inductive Value (Key Leaf : Type) where
  | leaf (content : Leaf)
  | array (items : List (Value Key Leaf))
  | object (members : List (Key × Value Key Leaf))

variable {Key Leaf : Type}

/-! ## The mask -/

mutual

/-- Replace everything under a hidden key. -/
def mask (hidden : Key → Bool) (censor : Leaf) :
    Value Key Leaf → Value Key Leaf
  | .leaf content => .leaf content
  | .array items => .array (maskItems hidden censor items)
  | .object members => .object (maskMembers hidden censor members)

/-- Mask every item. -/
def maskItems (hidden : Key → Bool) (censor : Leaf) :
    List (Value Key Leaf) → List (Value Key Leaf)
  | [] => []
  | item :: rest => mask hidden censor item :: maskItems hidden censor rest

/-- Mask every member. -/
def maskMembers (hidden : Key → Bool) (censor : Leaf) :
    List (Key × Value Key Leaf) → List (Key × Value Key Leaf)
  | [] => []
  | (key, value) :: rest =>
    (key, if hidden key then .leaf censor else mask hidden censor value) ::
      maskMembers hidden censor rest

end

/-! ## Agreement outside the hidden keys -/

mutual

/-- The values differ at most in what stands under hidden keys. -/
inductive Agree (hidden : Key → Bool) :
    Value Key Leaf → Value Key Leaf → Prop where
  | leaf (content : Leaf) : Agree hidden (.leaf content) (.leaf content)
  | array {left right : List (Value Key Leaf)}
      (items : AgreeItems hidden left right) :
      Agree hidden (.array left) (.array right)
  | object {left right : List (Key × Value Key Leaf)}
      (members : AgreeMembers hidden left right) :
      Agree hidden (.object left) (.object right)

/-- The items agree one by one. -/
inductive AgreeItems (hidden : Key → Bool) :
    List (Value Key Leaf) → List (Value Key Leaf) → Prop where
  | nil : AgreeItems hidden [] []
  | cons {first second : Value Key Leaf} {left right : List (Value Key Leaf)}
      (head : Agree hidden first second)
      (tail : AgreeItems hidden left right) :
      AgreeItems hidden (first :: left) (second :: right)

/-- The keys are the same, and what stands under keys in sight agrees. -/
inductive AgreeMembers (hidden : Key → Bool) :
    List (Key × Value Key Leaf) → List (Key × Value Key Leaf) → Prop where
  | nil : AgreeMembers hidden [] []
  | secret {key : Key} {first second : Value Key Leaf}
      {left right : List (Key × Value Key Leaf)}
      (concealed : hidden key = true)
      (tail : AgreeMembers hidden left right) :
      AgreeMembers hidden ((key, first) :: left) ((key, second) :: right)
  | visible {key : Key} {first second : Value Key Leaf}
      {left right : List (Key × Value Key Leaf)}
      (head : Agree hidden first second)
      (tail : AgreeMembers hidden left right) :
      AgreeMembers hidden ((key, first) :: left) ((key, second) :: right)

end

section Masks

variable {hidden : Key → Bool} {censor : Leaf}

mutual

/-- Values that agree have the same mask. -/
theorem Agree.mask_eq {first second : Value Key Leaf} :
    Agree hidden first second →
      mask hidden censor first = mask hidden censor second
  | .leaf content => rfl
  | .array items => by simp only [mask, items.maskItems_eq]
  | .object members => by simp only [mask, members.maskMembers_eq]

theorem AgreeItems.maskItems_eq {left right : List (Value Key Leaf)} :
    AgreeItems hidden left right →
      maskItems hidden censor left = maskItems hidden censor right
  | .nil => rfl
  | .cons head tail => by
      simp only [maskItems, head.mask_eq, tail.maskItems_eq]

theorem AgreeMembers.maskMembers_eq
    {left right : List (Key × Value Key Leaf)} :
    AgreeMembers hidden left right →
      maskMembers hidden censor left = maskMembers hidden censor right
  | .nil => rfl
  | .secret concealed tail => by
      simp only [maskMembers, concealed, if_true, tail.maskMembers_eq]
  | .visible head tail => by
      simp only [maskMembers, head.mask_eq, tail.maskMembers_eq]

end

mutual

/-- Values with the same mask agree. -/
theorem agree_of_mask_eq :
    (first second : Value Key Leaf) →
      mask hidden censor first = mask hidden censor second →
        Agree hidden first second
  | .leaf content, .leaf other, same => by
      cases same
      exact .leaf content
  | .array left, .array right, same => by
      simp only [mask, Value.array.injEq] at same
      exact .array (agreeItems_of_maskItems_eq left right same)
  | .object left, .object right, same => by
      simp only [mask, Value.object.injEq] at same
      exact .object (agreeMembers_of_maskMembers_eq left right same)
  | .leaf _, .array _, same => by simp [mask] at same
  | .leaf _, .object _, same => by simp [mask] at same
  | .array _, .leaf _, same => by simp [mask] at same
  | .array _, .object _, same => by simp [mask] at same
  | .object _, .leaf _, same => by simp [mask] at same
  | .object _, .array _, same => by simp [mask] at same

theorem agreeItems_of_maskItems_eq :
    (left right : List (Value Key Leaf)) →
      maskItems hidden censor left = maskItems hidden censor right →
        AgreeItems hidden left right
  | [], [], _ => .nil
  | first :: left, second :: right, same => by
      simp only [maskItems, List.cons.injEq] at same
      exact .cons (agree_of_mask_eq first second same.1)
        (agreeItems_of_maskItems_eq left right same.2)
  | [], _ :: _, same => by simp [maskItems] at same
  | _ :: _, [], same => by simp [maskItems] at same

theorem agreeMembers_of_maskMembers_eq :
    (left right : List (Key × Value Key Leaf)) →
      maskMembers hidden censor left = maskMembers hidden censor right →
        AgreeMembers hidden left right
  | [], [], _ => .nil
  | (key, first) :: left, (other, second) :: right, same => by
      simp only [maskMembers, List.cons.injEq, Prod.mk.injEq] at same
      obtain ⟨⟨rfl, value⟩, rest⟩ := same
      have tail := agreeMembers_of_maskMembers_eq left right rest
      by_cases concealed : hidden key = true
      · exact .secret concealed tail
      · rw [if_neg concealed, if_neg concealed] at value
        exact .visible (agree_of_mask_eq first second value) tail
  | [], (_, _) :: _, same => by simp [maskMembers] at same
  | (_, _) :: _, [], same => by simp [maskMembers] at same

end

/-- The masks are equal if and only if the values agree in sight. -/
theorem mask_eq_iff {first second : Value Key Leaf} :
    mask hidden censor first = mask hidden censor second ↔
      Agree hidden first second :=
  ⟨agree_of_mask_eq first second, Agree.mask_eq⟩

mutual

/-- Masking twice is masking once. -/
@[simp]
theorem mask_mask : (value : Value Key Leaf) →
    mask hidden censor (mask hidden censor value) = mask hidden censor value
  | .leaf _ => rfl
  | .array items => by simp only [mask, maskItems_maskItems items]
  | .object members => by simp only [mask, maskMembers_maskMembers members]

theorem maskItems_maskItems : (items : List (Value Key Leaf)) →
    maskItems hidden censor (maskItems hidden censor items) =
      maskItems hidden censor items
  | [] => rfl
  | item :: rest => by
      simp only [maskItems, mask_mask item, maskItems_maskItems rest]

theorem maskMembers_maskMembers : (members : List (Key × Value Key Leaf)) →
    maskMembers hidden censor (maskMembers hidden censor members) =
      maskMembers hidden censor members
  | [] => rfl
  | (key, value) :: rest => by
      simp only [maskMembers, maskMembers_maskMembers rest]
      split
      · rfl
      · rw [mask_mask value]

end

/-- The items of a mask. -/
theorem getElem?_maskItems (items : List (Value Key Leaf)) (index : Nat) :
    (maskItems hidden censor items)[index]? =
      (items[index]?).map (mask hidden censor) := by
  induction items generalizing index with
  | nil => rfl
  | cons item rest ih =>
      cases index with
      | zero => rfl
      | succ index => exact ih index

@[simp]
theorem length_maskItems (items : List (Value Key Leaf)) :
    (maskItems hidden censor items).length = items.length := by
  induction items with
  | nil => rfl
  | cons item rest ih => simp only [maskItems, List.length_cons, ih]

/-- A mask has the keys of the value, in the same order. -/
@[simp]
theorem keys_maskMembers (members : List (Key × Value Key Leaf)) :
    (maskMembers hidden censor members).map Prod.fst =
      members.map Prod.fst := by
  induction members with
  | nil => rfl
  | cons member rest ih => simp only [maskMembers, List.map_cons, ih]

/-- What stands under a key in the mask. -/
theorem lookup_maskMembers [BEq Key] [LawfulBEq Key]
    (members : List (Key × Value Key Leaf)) (key : Key) :
    (maskMembers hidden censor members).lookup key =
      (members.lookup key).map fun value =>
        if hidden key then .leaf censor else mask hidden censor value := by
  induction members with
  | nil => rfl
  | cons member rest ih =>
      obtain ⟨name, value⟩ := member
      simp only [maskMembers, List.lookup_cons]
      cases same : key == name with
      | false => exact ih
      | true =>
          rw [eq_of_beq same]
          rfl

end Masks

/-! ## Paths -/

/-- One step into a value. -/
inductive Step (Key : Type) where
  | item (index : Nat)
  | member (key : Key)

/-- What stands at a path. -/
def Value.at? [BEq Key] (value : Value Key Leaf) :
    List (Step Key) → Option (Value Key Leaf)
  | [] => some value
  | step :: rest =>
    match value, step with
    | .array items, .item index => (items[index]?).bind (at? · rest)
    | .object members, .member key => (members.lookup key).bind (at? · rest)
    | _, _ => none

/-- A path that passes no hidden key. -/
def Clear (hidden : Key → Bool) (path : List (Step Key)) : Prop :=
  ∀ key, .member key ∈ path → hidden key = false

/-- What can be seen of a value without looking into it. -/
inductive Outline (Key Leaf : Type) where
  | leaf (content : Leaf)
  | array (length : Nat)
  | object (keys : List Key)

/-- The outline of a value. -/
def Value.outline : Value Key Leaf → Outline Key Leaf
  | .leaf content => .leaf content
  | .array items => .array items.length
  | .object members => .object (members.map Prod.fst)

section Paths

variable {hidden : Key → Bool} {censor : Leaf}

@[simp]
theorem outline_mask (value : Value Key Leaf) :
    (mask hidden censor value).outline = value.outline := by
  cases value <;> simp [mask, Value.outline]

/-- Where no key is hidden, the mask has the mask of what stands there. -/
theorem at?_mask [BEq Key] [LawfulBEq Key] {path : List (Step Key)}
    (clear : Clear hidden path) (value : Value Key Leaf) :
    (mask hidden censor value).at? path =
      (value.at? path).map (mask hidden censor) := by
  induction path generalizing value with
  | nil => rfl
  | cons step rest ih =>
      have later : Clear hidden rest :=
        fun key among => clear key (List.mem_cons_of_mem _ among)
      cases value with
      | leaf content => cases step <;> rfl
      | array items =>
          cases step with
          | member key => rfl
          | item index =>
              simp only [mask, Value.at?, getElem?_maskItems]
              cases items[index]? with
              | none => rfl
              | some item => exact ih later item
      | object members =>
          cases step with
          | item index => rfl
          | member key =>
              have visible := clear key List.mem_cons_self
              simp only [mask, Value.at?, lookup_maskMembers, visible]
              cases members.lookup key with
              | none => rfl
              | some member => exact ih later member

/-- What is found in sight is in the mask as it is in the value. -/
theorem outline_at?_mask [BEq Key] [LawfulBEq Key] {path : List (Step Key)}
    (clear : Clear hidden path) (value : Value Key Leaf) :
    ((mask hidden censor value).at? path).map Value.outline =
      (value.at? path).map Value.outline := by
  rw [at?_mask clear]
  cases value.at? path with
  | none => rfl
  | some found => exact congrArg some (outline_mask found)

end Paths

end PaymentPortal.Nested
