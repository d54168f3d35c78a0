/-
# Full selections in the place of deltas

A delta whose lower bound is older than the retention becomes a full selection.
Its bound would leave records out for which the remote side no longer reports
deletions, so the bound has to go; the other conditions of the filter are no
less wanted than before.

Those under other keys stay, in their order, and the query of the selection has
exactly these (`resync_conditions`).  But the condition on the time of the last
change goes as a whole, and the bound is the only thing that is lost exactly if
it is the only thing that stands there.  An upper bound beside it is lost with
it (`periodPage_loses`).
-/

import RecordBridge.Proofs.Compile.Decisions
import RecordBridge.Proofs.Condition.Meaning
import RecordBridge.Proofs.Condition.Plain
import RecordBridge.Proofs.Value.Entries

namespace RecordBridge
namespace Filter

theorem map_comparison_eq_singleton_iff {field : String} {cs : List (Comparator × Value)}
    {k : Comparator} {v : Value} :
    cs.map (fun c => (⟨field, c.1, c.2⟩ : Comparison)) = [⟨field, k, v⟩] ↔ cs = [(k, v)] := by
  constructor
  · intro h
    obtain ⟨c, rfl, hc⟩ := List.map_eq_singleton_iff.1 h
    obtain ⟨-, rfl, rfl⟩ := Comparison.mk.inj hc
    rfl
  · rintro rfl
    rfl

/-- Whether the second list of conditions is the first one without one of its conditions. -/
def LacksOnly (c : Comparison) (cs ds : List Comparison) : Prop :=
  ∃ before after, cs = before ++ c :: after ∧ ds = before ++ after

/-- Conditions are lost from between others: they are a single one exactly if nothing but
that one is lost. -/
theorem lacksOnly_iff {c : Comparison} {before lost after : List Comparison} :
    LacksOnly c (before ++ (lost ++ after)) (before ++ after) ↔ lost = [c] := by
  constructor
  · rintro ⟨cs, ds, hwhole, hrest⟩
    -- where the condition was taken out need not be where the others were lost, so the
    -- two ways to split the list are compared up to order
    have hperm : (lost ++ (before ++ after)).Perm ([c] ++ (before ++ after)) := by
      calc (lost ++ (before ++ after)).Perm (before ++ (lost ++ after)) := by
            rw [← List.append_assoc, ← List.append_assoc]
            exact List.perm_append_comm.append_right after
        _ = cs ++ c :: ds := hwhole
        (cs ++ c :: ds).Perm (c :: (cs ++ ds)) := List.perm_middle
        _ = [c] ++ (before ++ after) := by rw [hrest, List.singleton_append]
    exact List.perm_singleton.1 ((List.perm_append_right_iff _).1 hperm)
  · rintro rfl
    exact ⟨before, after, rfl, rfl⟩

end Filter

namespace Compile

open RecordBridge.Filter (Tree)

variable {settings : Settings} {catalog : Catalog} {now since : Int} {d : Directive} {c : Compiled}
  {condition : Object}

/-- A full selection in the place of a delta: the filter is that of the delta without the
condition on the time of the last change, and the query has all conditions that are left. -/
structure Resyncs (catalog : Catalog) (d : Directive) (c : Compiled) (before after : Object)
    (found : Option Tree) (text : String) : Prop where
  since_eq : c.deltaSince = none
  filter_eq : c.directive.filter = some (before ++ after)
  isQuery : ∃ properties, IsQueryOf catalog d.targetType c properties text
  parse_eq : Filter.parse c.directive.document = .ok found
  expresses : Filter.Expresses catalog found text
  leaves_eq : found.toList.flatMap Tree.leaves =
    Value.conditions (.object before) ++ Value.conditions (.object after)

/-- What is left of a filter with a bound that is too old. -/
theorem eq_erase_of_remaining {filter : Object} {left : DeltaBound}
    (hbound : HasBound settings d condition since)
    (hold : settings.retentionMillis < now - since) (hfilter : d.filter = some filter)
    (h : (remaining settings now d).result = .ok left) :
    left = ⟨filter.erase settings.deltaField, none⟩ := by
  obtain ⟨_, bound, hsome, hgiven, hvalue, htime⟩ := hbound.exists_filter
  obtain rfl := Option.some.inj (hfilter.symm.trans hsome)
  have hbounds := bounds_of_deltaBound h
  rw [hgiven, Option.getD_some] at hbounds
  cases hbounds with
  | absent habsent => exact nomatch habsent.symm.trans hvalue
  | kept hvalue' htime' hkept =>
    obtain rfl := Option.some.inj (hvalue.symm.trans hvalue')
    obtain rfl := Option.some.inj (Except.ok.inj (htime.symm.trans htime'))
    omega
  | dropped => rfl

/-- What is compiled has no bound and the filter without its condition, and the query says
what that filter says. -/
theorem resyncs_of_compile {before after : Object}
    (hbound : HasBound settings d condition since)
    (hold : settings.retentionMillis < now - since)
    (hfilter : d.filter = some (before ++ (settings.deltaField, .object condition) :: after))
    (herase : Entries.erase (before ++ (settings.deltaField, .object condition) :: after)
      settings.deltaField = before ++ after)
    (h : (compile settings catalog now d).result = .ok c) :
    ∃ found text, Resyncs catalog d c before after found text := by
  obtain ⟨requested, -, hne, hquery⟩ := compileQuery_of_compile hbound.operation hbound.cursor h
  obtain ⟨left, text, hremains, htext, rfl⟩ := eq_firstPage_of_compileQuery hquery
  have hleft := eq_erase_of_remaining hbound hold hfilter hremains
  rw [herase] at hleft
  obtain rfl := hleft
  obtain ⟨found, hparse⟩ := Filter.exists_parse_of_renderDocument htext
  obtain ⟨_, -, -, hgiven, -⟩ := hbound.exists_filter
  have hremaining : (firstPage d (Catalog.Gate.projection catalog requested settings.defaultFields)
      (Catalog.Gate.projectionWarnings catalog requested settings.defaultFields)
      ⟨before ++ after, none⟩ text).directive.filter = some (before ++ after) := by
    simp only [firstPage, hgiven, Option.isSome_some, if_true]
  refine ⟨found, text, rfl, hremaining, ⟨_, isQueryOf_firstPage hne hremains htext⟩, ?_,
    Filter.expresses_of_renderDocument hparse htext, ?_⟩
  · rw [Directive.document, hremaining]
    exact hparse
  · rw [Filter.leaves_eq_conditions hparse, Filter.conditions_append]

/-- **A bound that is too old takes the condition with it in which it stands, and nothing
else.**  Take a selection with a lower bound beyond the retention, in whose filter no key
is given twice, and let it be compiled.  The entries of its filter before and behind the
condition with the bound are what is left of it, in their order, and the query says what
these say.  The leaves that are left are those of the given filter without the bound alone
exactly if there is nothing but the bound in that condition. -/
theorem resync_conditions (hbound : HasBound settings d condition since)
    (hold : settings.retentionMillis < now - since)
    (hkeys : ∀ filter, d.filter = some filter → (Entries.keys filter).Nodup)
    (h : (compile settings catalog now d).result = .ok c) :
    ∃ before after found text,
      d.filter = some (before ++ (settings.deltaField, .object condition) :: after) ∧
        Resyncs catalog d c before after found text ∧
        ∀ original bound, Filter.parse d.document = .ok original →
          Entries.get? condition "$gt" = some bound →
          original.toList.flatMap Tree.leaves = Value.conditions (.object before) ++
            (Value.conditions (.object [(settings.deltaField, .object condition)]) ++
              Value.conditions (.object after)) ∧
          (Filter.LacksOnly ⟨settings.deltaField, .gt, bound⟩
              (original.toList.flatMap Tree.leaves) (found.toList.flatMap Tree.leaves) ↔
            condition = [("$gt", bound)]) := by
  obtain ⟨filter, _, hfilter, -⟩ := hbound.exists_filter
  have hcondition : Entries.get? filter settings.deltaField = some (.object condition) := by
    have heq := hbound.condition_eq
    rwa [hfilter] at heq
  obtain ⟨before, after, rfl, herase⟩ :=
    Entries.exists_split_of_get? hcondition (hkeys filter hfilter)
  obtain ⟨found, text, hresyncs⟩ := resyncs_of_compile hbound hold hfilter herase h
  refine ⟨before, after, found, text, hfilter, hresyncs, fun original bound hparse hgt => ?_⟩
  have hdocument : d.document =
      .object (before ++ (settings.deltaField, .object condition) :: after) := by
    rw [Directive.document, hfilter]
  rw [hdocument] at hparse
  have hleaves := Filter.leaves_eq_conditions hparse
  rw [Filter.conditions_split] at hleaves
  refine ⟨hleaves, ?_⟩
  obtain ⟨hfield, cs, rfl⟩ := Filter.exists_operators hparse
    (List.mem_append_right before (List.mem_cons_self ..))
  rw [hleaves, hresyncs.leaves_eq, Filter.lacksOnly_iff, Filter.conditions_operators hfield,
    Filter.map_comparison_eq_singleton_iff]
  exact Tree.operators_eq_singleton_iff.symm

/-- A selection of what has changed since 1970, with conditions on both sides of the
bound. -/
def staleDirective : Directive :=
  { since1970 with
    filter := some
      [("Name", .object [("$ne", .text "A")]),
        ("SystemModstamp", .object [("$gt", .int 1500)]),
        ("$or", .list [.object [("Name", .text "B")], .object [("Name", .text "C")]])] }

/-- The filter that is left of it when the bound is too old. -/
def staleLeft : Object :=
  [("Name", .object [("$ne", .text "A")]),
    ("$or", .list [.object [("Name", .text "B")], .object [("Name", .text "C")]])]

/-- What it is compiled to then. -/
def stalePage : Compiled :=
  { directive :=
      { staleDirective with
        properties := some ["Name", "SystemModstamp"]
        filter := some staleLeft }
    action := .request
      { method := .get
        resource := "query/?q=SELECT%20Name%2CSystemModstamp%20FROM%20Account%20WHERE%20"
          ++ "Name!%3D'A'%20AND%20(Name%3D'B'%20OR%20Name%3D'C')"
        expectedStatus := 200 } }

/-- The leaves of its filter. -/
def staleLeaves : List Filter.Comparison :=
  [⟨"Name", .ne, .text "A"⟩, ⟨"SystemModstamp", .gt, .int 1500⟩, ⟨"Name", .eq, .text "B"⟩,
    ⟨"Name", .eq, .text "C"⟩]

/-- The leaves that are left. -/
def staleLeavesLeft : List Filter.Comparison :=
  [⟨"Name", .ne, .text "A"⟩, ⟨"Name", .eq, .text "B"⟩, ⟨"Name", .eq, .text "C"⟩]

set_option maxRecDepth 4000 in
/-- `resync_conditions` for that selection: only the bound is lost. -/
theorem resync_conditions_since1970 :
    (compile {} datedCatalog 2592001501 staleDirective).result = .ok stalePage ∧
      Filter.LacksOnly ⟨"SystemModstamp", .gt, .int 1500⟩ staleLeaves staleLeavesLeft := by
  have hpage : (compile {} datedCatalog 2592001501 staleDirective).result = .ok stalePage := rfl
  have hbound : HasBound {} staleDirective [("$gt", .int 1500)] 1500 :=
    ⟨rfl, fun _ h => (nomatch h), rfl, .int 1500, rfl, fun h => (nomatch h), rfl⟩
  have hold : ({} : Settings).retentionMillis < 2592001501 - 1500 := by decide
  have hkeys : ∀ filter, staleDirective.filter = some filter → (Entries.keys filter).Nodup := by
    intro filter hfilter
    obtain rfl := Option.some.inj hfilter
    decide
  obtain ⟨_, _, found, _, -, hresyncs, hleaves⟩ := resync_conditions hbound hold hkeys hpage
  obtain ⟨original, hparse⟩ : ∃ original, Filter.parse staleDirective.document = .ok original :=
    ⟨_, rfl⟩
  have hlacks := (hleaves original (.int 1500) hparse rfl).2.2 rfl
  have hwhole : original.toList.flatMap Tree.leaves = staleLeaves := by
    obtain rfl := Except.ok.inj hparse
    rfl
  have hleft : found.toList.flatMap Tree.leaves = staleLeavesLeft := by
    obtain rfl := Except.ok.inj hresyncs.parse_eq
    rfl
  rw [hwhole, hleft] at hlacks
  exact ⟨hpage, hlacks⟩

/-- A selection of what has changed in a period, under a name. -/
def periodDirective : Directive :=
  { since1970 with
    filter := some
      [("SystemModstamp", .object [("$gt", .int 1500), ("$lt", .int 1704067200000)]),
        ("Name", .text "Acme")] }

/-- What it is compiled to when its lower bound is too old. -/
def periodPage : Compiled :=
  { directive :=
      { periodDirective with
        properties := some ["Name", "SystemModstamp"]
        filter := some [("Name", .text "Acme")] }
    action := .request
      { method := .get
        resource := "query/?q=SELECT%20Name%2CSystemModstamp%20FROM%20Account%20WHERE%20"
          ++ "Name%3D'Acme'"
        expectedStatus := 200 } }

/-- The tree of its filter. -/
def periodTree : Tree :=
  .group .all false
    [.group .all false
      [.leaf ⟨"SystemModstamp", .gt, .int 1500⟩,
        .leaf ⟨"SystemModstamp", .lt, .int 1704067200000⟩],
      .leaf ⟨"Name", .eq, .text "Acme"⟩]

set_option maxRecDepth 4000 in
/-- **The end of a period is lost with its beginning:** of the condition on the time of the
last change nothing is left, and the query asks for all records of that name. -/
theorem periodPage_loses :
    (∃ condition, HasBound {} periodDirective condition 1500) ∧
      ({} : Settings).retentionMillis < 2592001501 - 1500 ∧
      (compile {} datedCatalog 2592001501 periodDirective).result = .ok periodPage ∧
      Filter.parse periodDirective.document = .ok (some periodTree) ∧
      Filter.parse periodPage.directive.document
        = .ok (some (.leaf ⟨"Name", .eq, .text "Acme"⟩)) ∧
      ¬ Filter.LacksOnly ⟨"SystemModstamp", .gt, .int 1500⟩ periodTree.leaves
        [⟨"Name", .eq, .text "Acme"⟩] := by
  have hbound : HasBound {} periodDirective
      [("$gt", .int 1500), ("$lt", .int 1704067200000)] 1500 :=
    ⟨rfl, fun _ h => (nomatch h), rfl, .int 1500, rfl, fun h => (nomatch h), rfl⟩
  refine ⟨⟨_, hbound⟩, by decide, rfl, rfl, rfl, ?_⟩
  rintro ⟨before, after, hwhole, hrest⟩
  have hlong := congrArg List.length hwhole
  have hshort := congrArg List.length hrest
  simp only [periodTree, Tree.leaves, Tree.leavesAll, List.length_append, List.length_cons,
    List.length_nil] at hlong hshort
  omega

end Compile
end RecordBridge
