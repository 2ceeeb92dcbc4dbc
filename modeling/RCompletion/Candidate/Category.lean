/-!
# Categories of candidates

What kind of symbol a candidate stands for.  A category is written as a tag;
the tags of functions, packages and arguments are fixed, and every other tag is
the type that the session reports for an object.
-/

namespace RCompletion

/-- The kind of symbol that a candidate stands for. -/
inductive Category where
  /-- A function. -/
  | function
  /-- A package. -/
  | package
  /-- An argument of a function. -/
  | argument
  /-- An object of the type with the given tag. -/
  | object (tag : String)
deriving Repr, DecidableEq, Inhabited

namespace Category

/-- The tag of a category. -/
def tag : Category → String
  | function => "function"
  | package => "package"
  | argument => "argument"
  | object tag => tag

/-- The category with a given tag. -/
def ofTag (tag : String) : Category :=
  if tag = "function" then
    function
  else if tag = "package" then
    package
  else if tag = "argument" then
    argument
  else
    object tag

/-- Whether a category is that of data frames, whose columns follow a `$`. -/
def isDataFrame : Category → Bool
  | object tag => tag == "data.frame" || tag == "tbl_df"
  | _ => false

@[simp]
theorem tag_function : tag function = "function" := rfl

@[simp]
theorem tag_package : tag package = "package" := rfl

@[simp]
theorem tag_argument : tag argument = "argument" := rfl

@[simp]
theorem tag_object (name : String) : tag (object name) = name := rfl

/-- Every tag is the tag of the category that it names. -/
@[simp]
theorem tag_ofTag (name : String) : (ofTag name).tag = name := by
  unfold ofTag
  split
  · simp_all
  · split
    · simp_all
    · split <;> simp_all

/-- A tag names an object exactly when it is none of the three fixed tags. -/
theorem ofTag_eq_object_iff (name other : String) :
    ofTag name = object other ↔
      name = other ∧ name ≠ "function" ∧ name ≠ "package" ∧
        name ≠ "argument" := by
  unfold ofTag
  split
  · simp_all
  · split
    · simp_all
    · split <;> simp_all

end Category
end RCompletion
