import Peg.Proofs.Grammar.Reachability

/-!
# Warnings

When all references can be linked, the definitions that the entry does not lead to are warned about,
each once and in their order. Only then is it found out whether rules call themselves at one
position, so there are the same warnings if they do.
-/

namespace Peg

/-- No two definitions have the same name, and the entry rule and all that is referred to anywhere
are defined. Rules may still call themselves at their own position. -/
structure Definitions.Linkable (rules : List Rule) (options : Options) : Prop where
  distinct : (rules.map Rule.name).Nodup
  entry : DefinesEntry rules options
  defined : ∀ r ∈ rules, r.RefersWithin rules

lemma LogMessage.filter_isWarning (log : List LogMessage) :
    log.filter isWarning = (log.filterMap unreachable?).map unreachable := by
  induction log with
  | nil => rfl
  | cons m log ih =>
    cases m <;> simp [List.filter_cons, List.filterMap_cons, isWarning, unreachable?, ih]

namespace Grammar

variable {first : Rule} {rest : List Rule} {options : Options}

/-- Definitions that can be linked are looked through for unreachable ones, whatever is found out
about them later. -/
lemma unreachable?_log_of_linkable (h : Definitions.Linkable (first :: rest) options) :
    (ofDefinitions (first :: rest) options).2.filterMap LogMessage.unreachable? =
      (Definitions.unreachable (first :: rest) (options.entry.getD first.name)).map Rule.name := by
  obtain ⟨root, hroot⟩ := h.entry.exists_find?
  have hquiet := Definitions.unreachable?_linkAll
    (fun name => (Definitions.find? (first :: rest) name).isSome) (first :: rest)
  have hlinked := Definitions.linkAll_eq_none_iff.mpr h.defined
  rcases hlink : Definitions.linkAll (fun name => (Definitions.find? (first :: rest) name).isSome)
    (first :: rest) with ⟨log, error?⟩
  rw [hlink] at hquiet hlinked
  obtain rfl : error? = none := hlinked
  have hlog : (log ++ (Definitions.unreachable (first :: rest)
        (options.entry.getD first.name)).map fun r => LogMessage.unreachable r.name).filterMap
      LogMessage.unreachable? = (Definitions.unreachable (first :: rest)
        (options.entry.getD first.name)).map Rule.name := by
    rw [List.filterMap_append, show log.filterMap LogMessage.unreachable? = [] from hquiet,
      List.nil_append, Definitions.unreachable?_warnings]
  rw [ofDefinitions]
  simp only [Definitions.firstDuplicate?_nil.mpr h.distinct, hroot, hlink]
  cases Definitions.leftRecursion? options.lenientDiscard (first :: rest) <;> exact hlog

open Classical in
/-- The warnings about definitions whose references can be linked, whatever recursion there is: one
for each rule that no chain of references leads to from the entry, in the order of the definitions.
The walk along the references ends by itself, not because its bound is reached. -/
theorem warnings_exact (h : Definitions.Linkable (first :: rest) options) :
    let rules := first :: rest
    let entry := options.entry.getD first.name
    let names := (rules.filter fun r => ¬ Definitions.Reaches rules entry r.name).map Rule.name
    (ofDefinitions rules options).2.filter LogMessage.isWarning = names.map .unreachable ∧
      names.Nodup ∧
      ∀ fuel v, (Definitions.referenceGraph rules).size < fuel →
        (Definitions.referenceGraph rules).visit fuel v {} =
          (Definitions.referenceGraph rules).walk v {} := by
  intro rules entry names
  have hentry : entry ∈ rules.map Rule.name := by
    obtain ⟨root, hroot⟩ := h.entry.exists_find?
    obtain ⟨hmem, hname⟩ := Definitions.mem_of_find? hroot
    rw [show entry = root.name from hname.symm]
    exact List.mem_map_of_mem hmem
  refine ⟨?_, ?_, fun fuel v hfuel => ?_⟩
  · rw [LogMessage.filter_isWarning, unreachable?_log_of_linkable h,
      Definitions.unreachable_eq_filter h.distinct hentry]
  · exact h.distinct.sublist (List.filter_sublist.map Rule.name)
  · have hremaining := Digraph.Walk.remaining_le_size (g := Definitions.referenceGraph rules) {}
    exact Digraph.visit_congr _ _ v {} (Nat.lt_succ_of_le hremaining) (by omega)

open Classical in
/-- The entry calls itself at its own position, and two rules refer to each other only. -/
theorem warnings_exact_cycle :
    let loop : Rule := .concat "e" [.reference "e" "e" none, .reference "d" "d" none]
    let dead : Rule := .concat "a" [.literal "'a'" [97], .reference "b" "b" none]
    let rules := [loop, dead, .literal "d" [48], .optional "b" (.reference "a" "a" none)]
    Definitions.Linkable rules {} ∧ (ofDefinitions rules {}).1.isOk = false ∧
      (ofDefinitions rules {}).2.filter LogMessage.isWarning =
        [.unreachable "a", .unreachable "b"] ∧
      (rules.filter fun r => ¬ Definitions.Reaches rules "e" r.name).map Rule.name =
        ["a", "b"] := by
  intro loop dead rules
  have hcycle : (ofDefinitions rules {}).1.isOk = false := by decide +kernel +revert
  have h : Definitions.Linkable rules {} := by
    refine ⟨by decide, ?_, Definitions.linkAll_eq_none_iff.mp rfl⟩
    rintro name ⟨⟩
  have hunreachable : (Definitions.unreachable rules "e").map Rule.name = ["a", "b"] := rfl
  have hlog : (ofDefinitions rules {}).2.filter LogMessage.isWarning =
      [.unreachable "a", .unreachable "b"] := by
    rw [LogMessage.filter_isWarning, unreachable?_log_of_linkable h]
    exact congrArg (List.map LogMessage.unreachable) hunreachable
  have hinjective : Function.Injective LogMessage.unreachable :=
    fun _ _ => LogMessage.unreachable.inj
  obtain ⟨hwarnings, -⟩ := warnings_exact h
  exact ⟨h, hcycle, hlog, hinjective.list_map (hwarnings.symm.trans hlog)⟩

end Grammar

end Peg
