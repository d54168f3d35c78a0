/-
# Catalogs that agree on names

Two callers may see different catalogs of one type, and what a directive is about
may still be the same in both.  Catalogs agree on some names if each of these is
the name of the same field in both or of no field in either (`AgreesOn`).  What
else they have, and in which order, is left open.

The gate looks names up and does nothing else with a catalog.  So what it keeps
and what it warns of are the same for catalogs that agree on the names that it is
asked for.
-/

import RecordBridge.Proofs.Catalog.Projection

namespace RecordBridge
namespace Catalog

/-- Whether two catalogs have the same field under each of some names, or both none. -/
def AgreesOn (catalog other : Catalog) (names : List String) : Prop :=
  ∀ name ∈ names, catalog.get? name = other.get? name

variable {catalog other : Catalog} {names fewer requested defaults : List String}
  {values : Object} {capability : Capability}

namespace AgreesOn

theorem mono (h : catalog.AgreesOn other names) (hfewer : fewer ⊆ names) :
    catalog.AgreesOn other fewer :=
  fun name hname => h name (hfewer hname)

theorem has_eq {name : String} (h : catalog.AgreesOn other names) (hname : name ∈ names) :
    catalog.has name = other.has name := by
  rw [has, has, h name hname]

end AgreesOn

namespace Gate

theorem mem_of_mem_distinct {name : String} (h : name ∈ distinct names) : name ∈ names :=
  (((selects_distinct names).mem_iff name).1 h).1

theorem projection_congr (h : catalog.AgreesOn other (requested ++ defaults)) :
    projection catalog requested defaults = projection other requested defaults :=
  List.filter_congr fun _ hname => h.has_eq (mem_of_mem_distinct hname)

theorem projectionWarnings_congr (h : catalog.AgreesOn other requested) :
    projectionWarnings catalog requested defaults
      = projectionWarnings other requested defaults := by
  refine congrArg (List.map unknownRequest) (List.filter_congr fun name hname => ?_)
  rw [h.has_eq (mem_of_mem_distinct hname)]

theorem admitted_congr (h : catalog.AgreesOn other values.keys) :
    admitted catalog values capability = admitted other values capability := by
  refine List.filter_congr fun e he => ?_
  rw [h e.1 (List.mem_map_of_mem he)]

theorem admissionWarnings_congr (h : catalog.AgreesOn other values.keys) :
    admissionWarnings catalog values capability = admissionWarnings other values capability := by
  refine List.filterMap_congr fun e he => ?_
  rw [valueWarning?, valueWarning?, h e.1 (List.mem_map_of_mem he)]

end Gate
end Catalog
end RecordBridge
