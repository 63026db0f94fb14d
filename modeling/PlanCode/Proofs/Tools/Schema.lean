import PlanCode.Tools.Call

/-!
# Arguments of the published shape

What the shapes that tools publish ask of arguments. A shape is itself data: each
of its entries speaks of values of one kind and says nothing about all others.

* `argument_of_property`: what an argument of one kind is, if it is given.
* `accepts_object`: what is enough for a mapping to be of a published shape.
-/
namespace PlanCode
namespace Tool

open ToolDescription (record texts object field)

/-- A value is of a kind that shapes name. -/
def IsOfKind (kind : String) (d : Datum) : Prop :=
  (kind = "object" ∧ ∃ fields, d = .map fields) ∨
  (kind = "array" ∧ ∃ items, d = .list items) ∨
  (kind = "string" ∧ ∃ s, d = .text s) ∨
  -- A number without a fraction is whole, however it is written.
  (kind = "integer" ∧ ∃ n, d.numeral? = some n ∧ ∀ b, d ≠ .bool b) ∨
  (kind = "null" ∧ d = .null)

/-- Values of the shape that a datum describes. -/
inductive Accepts : Datum → Datum → Prop where
  | intro {shape : List (Datum × Datum)} {d : Datum}
    (kind : ∀ name, Datum.field? "type" shape = some (.text name) → IsOfKind name d)
    (kinds : ∀ names, Datum.field? "type" shape = some (.list names) →
      ∃ name, .text name ∈ names ∧ IsOfKind name d)
    (properties : ∀ fields shapes, d = .map fields →
      Datum.field? "properties" shape = some (.map shapes) →
      ∀ name inner value, Datum.field? name shapes = some inner →
        Datum.field? name fields = some value → Accepts inner value)
    (required : ∀ fields names, d = .map fields →
      Datum.field? "required" shape = some (.list names) →
      ∀ name, .text name ∈ names → (Datum.field? name fields).isSome = true)
    (items : ∀ values inner, d = .list values → Datum.field? "items" shape = some inner →
      ∀ value ∈ values, Accepts inner value) :
    Accepts (.map shape) d

variable {fields : List (Datum × Datum)}

/-- An argument of one kind is a value of that kind, if it is given. -/
theorem argument_of_property {properties : List (String × Datum)} {needed : List String}
    (h : Accepts (object properties needed) (.map fields)) {name kind : String}
    {shape : List (Datum × Datum)}
    (hn : Datum.field? name (properties.map fun (k, v) => (.text k, v)) = some (.map shape))
    (hk : Datum.field? "type" shape = some (.text kind)) :
    argument name fields = .null ∨ IsOfKind kind (argument name fields) := by
  unfold argument
  cases hv : Datum.field? name fields with
  | none => exact Or.inl rfl
  | some value =>
    cases h with
    | intro _ _ inner _ _ =>
      cases inner fields _ rfl rfl name _ value hn hv with
      | intro ofKind _ _ _ _ => exact Or.inr (ofKind kind hk)

/-- A text argument is a text, if it is given. -/
theorem argument_of_text {properties : List (String × Datum)} {needed : List String}
    (h : Accepts (object properties needed) (.map fields)) {name description : String}
    (hn : Datum.field? name (properties.map fun (k, v) => (.text k, v)) =
      some (field name ["string"] description).2) :
    argument name fields = .null ∨ ∃ s, argument name fields = .text s := by
  refine (argument_of_property h hn rfl).imp id ?_
  rintro (⟨h, -⟩ | ⟨h, -⟩ | ⟨-, hs⟩ | ⟨h, -⟩ | ⟨h, -⟩)
  · simp at h
  · simp at h
  · exact hs
  · simp at h
  · simp at h

/-! ## Values of published shapes -/

variable {kind : String} {description d : Datum}

theorem accepts_object {properties : List (String × Datum)} {needed : List String}
    (hn : ∀ name ∈ needed, (Datum.field? name fields).isSome = true)
    (hp : ∀ name inner value,
      Datum.field? name (properties.map fun (k, v) => (.text k, v)) = some inner →
      Datum.field? name fields = some value → Accepts inner value) :
    Accepts (object properties needed) (.map fields) := by
  refine .intro ?_ ?_ ?_ ?_ ?_
  · rintro name ⟨⟩
    exact Or.inl ⟨rfl, _, rfl⟩
  · rintro names ⟨⟩
  · rintro _ _ ⟨⟩ ⟨⟩
    exact hp
  · rintro _ _ ⟨⟩ ⟨⟩ name hm
    exact hn name (by simpa using hm)
  · rintro _ _ ⟨⟩

/-- A property of one kind and of no further shape. -/
theorem accepts_ofKind (h : IsOfKind kind d) :
    Accepts (record [("type", .text kind), ("description", description)]) d := by
  refine .intro ?_ ?_ ?_ ?_ ?_
  · rintro name ⟨⟩
    exact h
  · rintro names ⟨⟩
  · rintro _ _ _ ⟨⟩
  · rintro _ _ _ ⟨⟩
  · rintro _ _ _ ⟨⟩

/-- A property of any of several kinds. -/
theorem accepts_ofKinds {kinds : List String} (hk : kind ∈ kinds) (h : IsOfKind kind d) :
    Accepts (record [("type", texts kinds), ("description", description)]) d := by
  refine .intro ?_ ?_ ?_ ?_ ?_
  · rintro name ⟨⟩
  · rintro names ⟨⟩
    exact ⟨kind, List.mem_map_of_mem hk, h⟩
  · rintro _ _ _ ⟨⟩
  · rintro _ _ _ ⟨⟩
  · rintro _ _ _ ⟨⟩

theorem accepts_items {values : List Datum} {inner : Datum}
    (h : ∀ value ∈ values, Accepts inner value) :
    Accepts (record [("type", .text "array"), ("description", description), ("items", inner)])
      (.list values) := by
  refine .intro ?_ ?_ ?_ ?_ ?_
  · rintro name ⟨⟩
    exact Or.inr (Or.inl ⟨rfl, _, rfl⟩)
  · rintro names ⟨⟩
  · rintro _ _ ⟨⟩
  · rintro _ _ ⟨⟩
  · rintro _ _ ⟨⟩ ⟨⟩
    exact h

end Tool
end PlanCode
