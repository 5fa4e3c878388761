import SpannerSchema.Rows.Conversion

/-! Rows that are objects. A store holds them, and an object is known by its address, so that what is done to it shows
    wherever it is known. Converting an object copies it and sets attributes of the copy; those of the object are read
    when their turn comes. -/

namespace SpannerSchema

/-- Objects by their addresses, each with its attributes. -/
structure Store where
  objects : List (List (String × Value)) := []
deriving Repr

namespace Store

/-- The attributes of the object at `a`; none where there is no object. -/
def attributes (s : Store) (a : Nat) : List (String × Value) := s.objects.getD a []

/-- The store with one more object, at the first free address. -/
def add (s : Store) (attributes : List (String × Value)) : Store := ⟨s.objects ++ [attributes]⟩

/-- The store with the attribute `name` of the object at `a` set. -/
def setAttribute (s : Store) (a : Nat) (name : String) (v : Value) : Store :=
  ⟨s.objects.modify a fun attributes => Value.setField attributes name v⟩

end Store

namespace Conversion

/-- Sets attributes of the object at `copy` to the converted values of those of the object at `a`, one after the other,
up to the first that cannot be converted. The store is what is left of it then. -/
def convertAttributes (names : List String) (a copy : Nat) :
    List String → Store → Store × Option ConversionError
  | [], s => (s, none)
  | name :: rest, s =>
    if names.contains name then
      match convertField names name (((s.attributes a).lookup name).getD .null) with
      | .error e => (s, some e)
      | .ok v => convertAttributes names a copy rest (s.setAttribute copy name v)
    else convertAttributes names a copy rest s

/-- The address of a converted copy of the object at `a`, or why there is none, and what the work leaves of the store. -/
def convertObject (names : List String) (a : Nat) (s : Store) : Store × Except ConversionError Nat :=
  let copy := s.objects.length
  match convertAttributes names a copy ((s.attributes a).map (·.1)) (s.add (s.attributes a)) with
  | (s, some e) => (s, .error e)
  | (s, none) => (s, .ok copy)

end Conversion
end SpannerSchema
