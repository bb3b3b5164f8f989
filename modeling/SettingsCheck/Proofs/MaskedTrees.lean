import SettingsCheck.Redaction

namespace SettingsCheck.Redaction

mutual

/-- Trees that agree outside of secrets: the same containers, related leaves, and under a name that
tells of a secret anything but null in both. -/
inductive Alike (related : Json → Json → Prop) : Json → Json → Prop
  | leaf {a b : Json} : related a b → Alike related a b
  | array {as bs : List Json} : AlikeItems related as bs → Alike related (.array as) (.array bs)
  | object {es fs : List (String × Json)} :
    AlikeEntries related es fs → Alike related (.object es) (.object fs)

inductive AlikeItems (related : Json → Json → Prop) : List Json → List Json → Prop
  | nil : AlikeItems related [] []
  | cons {a b : Json} {as bs : List Json} :
    Alike related a b → AlikeItems related as bs → AlikeItems related (a :: as) (b :: bs)

inductive AlikeEntries (related : Json → Json → Prop) :
    List (String × Json) → List (String × Json) → Prop
  | nil : AlikeEntries related [] []
  | secret {name : String} {a b : Json} {es fs : List (String × Json)} :
    isSensitiveName name = true → isNull a = false → isNull b = false →
    AlikeEntries related es fs → AlikeEntries related ((name, a) :: es) ((name, b) :: fs)
  | entry {name : String} {a b : Json} {es fs : List (String × Json)} :
    Alike related a b → AlikeEntries related es fs →
    AlikeEntries related ((name, a) :: es) ((name, b) :: fs)

end

/-- What becomes of a leaf: a text may become another one, and all else stays. A float that is no
number stands for null. -/
inductive Kept : Json → Json → Prop
  | null : Kept .null .null
  | bool (b : Bool) : Kept (.bool b) (.bool b)
  | integer (n : Int) : Kept (.integer n) (.integer n)
  | float {x : Float} : x.isFinite = true → Kept (.float x) (.float x)
  | noNumber {x : Float} : x.isFinite = false → Kept (.float x) .null
  | string (s t : String) : Kept (.string s) (.string t)

/-- The secret in an entry is masked, unless there is none. -/
theorem maskEntries_secret {name : String} {item : Json} (hname : isSensitiveName name = true)
    (hitem : isNull item = false) (rest : List (String × Json)) :
    maskEntries ((name, item) :: rest) = (name, .string "***") :: maskEntries rest := by
  simp [maskEntries, hname, hitem]

theorem maskEntries_of_null {name : String} {item : Json} (hitem : isNull item = true)
    (rest : List (String × Json)) :
    maskEntries ((name, item) :: rest) = (name, maskTree item) :: maskEntries rest := by
  simp [maskEntries, hitem]

theorem maskEntries_of_not_sensitive {name : String} (hname : isSensitiveName name = false)
    (item : Json) (rest : List (String × Json)) :
    maskEntries ((name, item) :: rest) = (name, maskTree item) :: maskEntries rest := by
  simp [maskEntries, hname]

theorem isNull_eq_of_alike {a b : Json} (h : Alike (· = ·) a b) : isNull a = isNull b := by
  cases h with
  | leaf heq => rw [heq]
  | array => rfl
  | object => rfl

mutual

theorem maskTree_eq_of_alike {a b : Json} : Alike (· = ·) a b → maskTree a = maskTree b
  | .leaf heq => by rw [heq]
  | .array h => by rw [maskTree, maskTree, maskItems_eq_of_alike h]
  | .object h => by rw [maskTree, maskTree, maskEntries_eq_of_alike h]

theorem maskItems_eq_of_alike {as bs : List Json} :
    AlikeItems (· = ·) as bs → maskItems as = maskItems bs
  | .nil => rfl
  | .cons h hrest => by
    rw [maskItems, maskItems, maskTree_eq_of_alike h, maskItems_eq_of_alike hrest]

theorem maskEntries_eq_of_alike {es fs : List (String × Json)} :
    AlikeEntries (· = ·) es fs → maskEntries es = maskEntries fs
  | .nil => rfl
  | .secret hname ha hb hrest => by
    rw [maskEntries_secret hname ha, maskEntries_secret hname hb, maskEntries_eq_of_alike hrest]
  | .entry h hrest => by
    -- both entries are masked, or neither is
    rw [maskEntries, maskEntries, isNull_eq_of_alike h, maskTree_eq_of_alike h,
      maskEntries_eq_of_alike hrest]

end

mutual

theorem alike_maskTree : ∀ j : Json, Alike Kept j (maskTree j)
  | .null => .leaf .null
  | .bool b => .leaf (.bool b)
  | .integer n => .leaf (.integer n)
  | .float x => by
    cases hx : x.isFinite with
    | true => simpa [maskTree, maskLeaf, hx] using Alike.leaf (Kept.float hx)
    | false => simpa [maskTree, maskLeaf, hx] using Alike.leaf (Kept.noNumber hx)
  | .string s => .leaf (.string s (maskText s))
  | .array items => .array (alike_maskItems items)
  | .object entries => .object (alike_maskEntries entries)

theorem alike_maskItems : ∀ items : List Json, AlikeItems Kept items (maskItems items)
  | [] => .nil
  | item :: rest => .cons (alike_maskTree item) (alike_maskItems rest)

theorem alike_maskEntries :
    ∀ entries : List (String × Json), AlikeEntries Kept entries (maskEntries entries)
  | [] => .nil
  | (name, item) :: rest => by
    have hrest := alike_maskEntries rest
    cases hname : isSensitiveName name with
    | false =>
      rw [maskEntries_of_not_sensitive hname]
      exact .entry (alike_maskTree item) hrest
    | true =>
      cases hitem : isNull item with
      | true =>
        rw [maskEntries_of_null hitem]
        exact .entry (alike_maskTree item) hrest
      | false =>
        rw [maskEntries_secret hname hitem]
        exact .secret hname hitem rfl hrest

end

/-- A masked tree tells nothing of what stands under the names of secrets, apart from what is null
there, and everything else but its texts stays as it is. -/
theorem masked_tree_hides_secrets :
    (∀ a b : Json, Alike (· = ·) a b → maskTree a = maskTree b) ∧
    ∀ j : Json, Alike Kept j (maskTree j) :=
  ⟨fun _ _ h => maskTree_eq_of_alike h, alike_maskTree⟩

namespace Sample

/-- A list of accounts, of which the second one has no password yet. -/
def accounts (password : Json) : Json :=
  .object [("accounts", .array
    [.object [("name", .string "admin"), ("password", password)],
      .object [("name", .string "bot"), ("password", .null)]])]

end Sample

theorem passwords_hidden :
    Alike (· = ·) (Sample.accounts (.string "hunter2")) (Sample.accounts (.array [.integer 1])) ∧
    maskTree (Sample.accounts (.string "hunter2")) =
      maskTree (Sample.accounts (.array [.integer 1])) := by
  have hname : isSensitiveName "password" = true := by decide
  have halike : Alike (· = ·) (Sample.accounts (.string "hunter2"))
      (Sample.accounts (.array [.integer 1])) :=
    .object (.entry (.array (.cons
      (.object (.entry (.leaf rfl) (.secret hname rfl rfl .nil)))
      (.cons (.leaf rfl) .nil))) .nil)
  exact ⟨halike, masked_tree_hides_secrets.1 _ _ halike⟩

end SettingsCheck.Redaction
