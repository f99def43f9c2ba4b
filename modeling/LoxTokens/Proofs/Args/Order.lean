import LoxTokens.Proofs.Args.Division

/-!
The order of the items of a command line. Only that of the positional words counts: items that
are put into another order otherwise give the same values.
-/

namespace LoxTokens.Args

def Item.isPositional {d : Definition} : Item d → Bool
  | positional _ _ => true
  | _              => false

namespace Definition

variable {d : Definition} {default : d.Index → Value} {items items' : List (Item d)}
  {words words' : List String}

theorem filterMap_positional?_filter (items : List (Item d)) :
    (items.filter Item.isPositional).filterMap Item.positional? =
      items.filterMap Item.positional? := by
  rw [List.filterMap_filter]
  refine List.filterMap_congr fun item _ => ?_
  cases item <;> rfl

-- The value that items give to a field.
def valueOf (default : d.Index → Value) (items : List (Item d)) (i : d.Index) : Value :=
  (items.find? (·.index = i)).elim (default i) Item.value

theorem values_congr (h : ∀ i, valueOf default items i = valueOf default items' i) :
    d.values default items = d.values default items' :=
  List.map_congr_left fun i _ => Prod.ext rfl <| h i

theorem valueOf_of_not_mem {i : d.Index} (h : i ∉ items.map Item.index) :
    valueOf default items i = default i := by
  have : items.find? (·.index = i) = none := by simpa using h
  rw [valueOf, this, Option.elim_none]

namespace Divides

theorem valueOf_eq {item : Item d} (h : d.Divides items words) (hi : item ∈ items) :
    valueOf default items item.index = item.value := by
  rw [valueOf, h.find?_eq hi, Option.elim_some]

theorem valueOf_eq_of_perm (h : d.Divides items words) (h' : d.Divides items' words')
    (hp : items'.Perm items) (i : d.Index) :
    valueOf default items' i = valueOf default items i := by
  by_cases hi : i ∈ items.map Item.index
  case pos =>
    obtain ⟨item, hm, rfl⟩ := List.mem_map.mp hi
    rw [h.valueOf_eq hm, h'.valueOf_eq <| hp.mem_iff.mpr hm]
  case neg =>
    have hi' := mt (hp.map Item.index).mem_iff.mp hi
    rw [valueOf_of_not_mem hi, valueOf_of_not_mem hi']

theorem perm (h : d.Divides items words) (hp : items'.Perm items)
    (ho : items'.filter Item.isPositional = items.filter Item.isPositional) :
    d.Divides items' (items'.flatMap Item.words) where
  words         := rfl
  proper item   := fun hi => h.proper item <| hp.mem_iff.mp hi
  once          := (hp.filterMap _).nodup_iff.mpr h.once
  required i hi := (hp.map _).mem_iff.mpr <| h.required i hi
  inOrder := by
    rw [← filterMap_positional?_filter, ho, filterMap_positional?_filter]
    exact h.inOrder

-- An option may come in between, if its field is not given yet.
theorem insert {l r : List (Item d)} {item : Item d} {i : d.Index} (h : d.Divides (l ++ r) words)
    (hp : item.Proper) (ho : item.option? = some i) (hi : i ∉ (l ++ r).map Item.index) :
    d.Divides (l ++ item :: r) ((l ++ item :: r).flatMap Item.words) where
  words         := rfl
  proper other  := fun hm => by
    cases List.mem_cons.mp <| List.perm_middle.mem_iff.mp hm
    case inl he => exact he ▸ hp
    case inr hm => exact h.proper other hm
  once := by
    refine (List.perm_middle.filterMap _).nodup_iff.mpr ?_
    rw [List.filterMap_cons_some ho]
    exact List.nodup_cons.mpr ⟨mt Item.mem_index_of_mem_option? hi, h.once⟩
  inOrder := by
    have hn : item.positional? = none := by cases item <;> cases ho <;> rfl
    have := h.inOrder
    rwa [List.filterMap_append, List.filterMap_cons_none hn, ← List.filterMap_append]
  required j hj := by
    have := h.required j hj
    simp only [List.map_append, List.map_cons, List.mem_append, List.mem_cons] at this ⊢
    exact this.imp_right .inr

end Divides

theorem parseFrom_perm {s : Values} (h : d.parseFrom default words = .ok s) :
    (∃ items, d.Divides items words) ∧
    ∀ items items' : List (Item d), d.Divides items words → items'.Perm items →
      items'.filter Item.isPositional = items.filter Item.isPositional →
      d.parseFrom default (items'.flatMap Item.words) = .ok s := by
  obtain ⟨items, hd, rfl⟩ := parseFrom_eq_ok_iff.mp h
  refine ⟨⟨items, hd⟩, fun items₁ items' hd₁ hp ho => ?_⟩
  obtain rfl := hd₁.unique hd
  have hd' := hd₁.perm hp ho
  exact parseFrom_eq_ok_iff.mpr ⟨items', hd', values_congr <| hd₁.valueOf_eq_of_perm hd' hp⟩

def copyField : Fin 4 → copy.Index :=
  id

-- A bare word that is a flag, between the two positional words and before them.
def spreadItems : List (Item copy) := [
  .positional (copyField 2) "a", .option (copyField 0) "-l" "loud",
  .flag (copyField 1) "loud", .positional (copyField 3) "to"]

def gatheredItems : List (Item copy) := [
  .flag (copyField 1) "loud", .positional (copyField 2) "a",
  .positional (copyField 3) "to", .option (copyField 0) "-l" "loud"]

theorem spreadItems_proper : ∀ item ∈ spreadItems, item.Proper := by
  simp only [spreadItems, List.forall_mem_cons]
  refine ⟨.positional ?_ ?_, .option ⟨?_, ?_⟩ ?_ ?_ ?_, .flag ⟨?_, ?_⟩ ?_ rfl,
    .positional ?_ ?_, nofun⟩
  all_goals decide +kernel

theorem parseFrom_perm_gathered :
    ∃ s, copy.parse ["a", "-l", "loud", "loud", "to"] = .ok s ∧
      copy.parse ["loud", "a", "to", "-l", "loud"] = .ok s := by
  have hd : copy.Divides spreadItems ["a", "-l", "loud", "loud", "to"] :=
    ⟨rfl, spreadItems_proper, by decide, by decide, by decide⟩
  have hs : copy.parse ["a", "-l", "loud", "loud", "to"] = .ok _ :=
    parseFrom_eq_ok_iff.mpr ⟨_, hd, rfl⟩
  have hp := parseFrom_perm hs |>.right _ gatheredItems hd (by decide) (by decide)
  exact ⟨_, hs, hp⟩

end Definition
end LoxTokens.Args
