import FilterSynthesis.Filter.Outputs
import FilterSynthesis.Json.Order

namespace FilterSynthesis.Json

/-- The value under a key of an object, null if there is none. -/
def entry (key : String) : Json → Outputs
  | .object members => .single ((members.lookup key).getD .null)
  | _ => .failed (.noObject key)

def parts? : Json → Option (List Json)
  | .array elements => some elements
  | .object members => some (Entries.values members)
  | _ => none

def iterate (value : Json) : Outputs :=
  match value.parts? with
  | some parts => .ofList parts
  | none => .failed .notIterable

def truthy : Json → Bool
  | .null => false
  | .bool value => value
  | _ => true

def allTrue (value : Json) : Outputs :=
  match value.parts? with
  | some parts => .single (.bool (parts.all truthy))
  | none => .failed .notIterable

def anyTrue (value : Json) : Outputs :=
  match value.parts? with
  | some parts => .single (.bool (parts.any truthy))
  | none => .failed .notIterable

/-- The sorted keys of an object, the positions of an array. -/
def keys : Json → Outputs
  | .object members => .single (.array ((sortedKeys members).map .string))
  | .array elements =>
      .single (.array
          ((List.range elements.length).map fun (position : Nat) => .number (.int position)))
  | _ => .failed .noKeys

def sorted : Json → Outputs
  | .array elements => .single (.array (sort elements))
  | _ => .failed .noArray

/-- Each element with all that a filter yields for it; the first failure ends it. -/
def withKeys (key : Json → Outputs) : List Json → Except Misfit (List (List Json × Json))
  | [] => .ok []
  | element :: rest =>
      match (key element).toExcept with
      | .error misfit => .error misfit
      | .ok values =>
          match withKeys key rest with
          | .ok keyed => .ok ((values, element) :: keyed)
          | .error misfit => .error misfit

def orderKeys (left right : List Json × Json) : Ordering := lexicographic order left.1 right.1

def sortKeyed (keyed : List (List Json × Json)) : List (List Json × Json) :=
  Sorting.stable (fun left right => orderKeys left right == .lt) keyed

/-- Sort by what a filter yields. An array of fewer than two elements is left alone and the filter
is not run. -/
def sortedBy (key : Json → Outputs) : Json → Outputs
  | .array elements =>
      if elements.length < 2 then .single (.array elements)
      else
        match withKeys key elements with
        | .ok keyed => .single (.array ((sortKeyed keyed).map (·.2)))
        | .error misfit => .failed misfit
  | _ => .failed .noArray

/-- Runs of elements with equal keys; each run is compared by the key of its first element. -/
def runs : List (List Json × Json) → List (List (List Json × Json))
  | [] => []
  | first :: rest =>
      let more := rest.takeWhile fun other => orderKeys first other == .eq
      let others := rest.dropWhile fun other => orderKeys first other == .eq
      (first :: more) :: runs others
  termination_by keyed => keyed.length
  decreasing_by
    exact Nat.lt_succ_of_le (List.dropWhile_suffix _).length_le

def groupedBy (key : Json → Outputs) : Json → Outputs
  | .array elements =>
      match withKeys key elements with
      | .ok keyed =>
          .single (.array ((runs (sortKeyed keyed)).map fun run => .array (run.map (·.2))))
      | .error misfit => .failed misfit
  | _ => .failed .noArray

def selected (condition : Json → Outputs) (value : Json) : Outputs :=
  (condition value).bind fun holds => if holds.truthy then .single value else .done

def ranksWith (left right : Json) : Json := .bool (left.order right == .eq)

end FilterSynthesis.Json
