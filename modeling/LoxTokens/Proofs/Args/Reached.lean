import LoxTokens.Proofs.Args.Division

/-!
The words that are reached as the first ones of items. Before such a word stand items that have
been read, and of what comes behind them only their fields are known.
-/

namespace LoxTokens.Args.Definition

variable {d : Definition} {given items items' : List (Item d)} {item item' : Item d}
  {word word' : String} {words rest rest' : List String} {e e' : ParseError}

-- Items that are read from the front of words, up to the rest of them.
structure Reads (d : Definition) (items : List (Item d)) (words rest : List String) : Prop where
  words   : items.flatMap Item.words ++ rest = words
  proper  : ∀ item ∈ items, item.Proper
  once    : (items.filterMap Item.option?).Nodup
  inOrder : items.filterMap Item.positional? <+: d.positionals

theorem readItems_flatMap_append (hp : ∀ item ∈ items, item.Proper) (hf : FitInTurn given items)
    (rest : List String) :
    d.readItems given (items.flatMap Item.words ++ rest) =
      (d.readItems (items.reverse ++ given) rest).map (items ++ ·) := by
  induction items generalizing given
  case nil => cases h : d.readItems given rest <;> simp [h, Except.map]
  case cons item items hi =>
    have ⟨hp, hps⟩ := List.forall_mem_cons.mp hp
    have ⟨hf, hfs⟩ := hf
    rw [List.flatMap_cons, List.append_assoc, readItems_words_append hp hf, hi hps hfs,
      List.reverse_cons, List.append_assoc, List.singleton_append]
    cases d.readItems (items.reverse ++ item :: given) rest <;> rfl

namespace Reads

theorem fitInTurn (h : d.Reads items words rest) : FitInTurn [] items :=
  @fitInTurn_iff d [] items nofun h.proper .nil d.positionals.nil_prefix |>.mpr ⟨h.once, h.inOrder⟩

theorem readItems_eq (h : d.Reads items words rest) :
    d.readItems [] words = (d.readItems items.reverse rest).map (items ++ ·) := by
  rw [← h.words, readItems_flatMap_append h.proper h.fitInTurn, List.append_nil]

theorem nextPositional?_eq (h : d.Reads items words rest) :
    d.nextPositional? items.reverse = d.positionals[(items.filterMap Item.positional?).length]? := by
  have ⟨left, hl⟩ := h.inOrder
  have hr : (items.reverse.filterMap Item.positional?).reverse ++ left = d.positionals := by
    rwa [List.filterMap_reverse, List.reverse_reverse]
  have hp : ∀ item ∈ items.reverse, item.Proper := fun _ hi => h.proper _ <| List.mem_reverse.mp hi
  rw [nextPositional?_eq_head? hp hr, ← hl, List.getElem?_append_right le_rfl, Nat.sub_self,
    List.head?_eq_getElem?]

-- The item that is read next comes behind the others.
theorem concat (h : d.Reads items words (word :: rest))
    (hr : d.readItem items.reverse word rest = .ok item) :
    d.Reads (items ++ [item]) words (rest.drop (item.words.length - 1)) := by
  have ⟨hp, hf, after, hw⟩ := readItem_eq_ok_iff.mp hr
  have ho : (items.reverse.filterMap Item.option?).Nodup := by
    rw [List.filterMap_reverse, List.nodup_reverse]
    exact h.once
  have hi : (items.reverse.filterMap Item.positional?).reverse <+: d.positionals := by
    rw [List.filterMap_reverse, List.reverse_reverse]
    exact h.inOrder
  have hg : ∀ item ∈ items.reverse, item.Proper := fun _ hi => h.proper _ <| List.mem_reverse.mp hi
  have ⟨ho, hi⟩ := (fits_iff hg hp ho hi).mp hf
  have he : items ++ [item] = (item :: items.reverse).reverse := by simp
  refine ⟨?words, ?proper, ?once, ?inOrder⟩
  case words   => rw [drop_words hw, ← h.words, ← hw]; simp
  case proper  => simpa [or_imp, forall_and] using ⟨h.proper, hp⟩
  case once    => rwa [he, List.filterMap_reverse, List.nodup_reverse]
  case inOrder => rwa [he, List.filterMap_reverse]

-- What follows the items may be replaced.
theorem replace (h : d.Reads items words rest) (rest' : List String) :
    d.Reads items (items.flatMap Item.words ++ rest') rest' :=
  { h with words := rfl }

theorem set (h : d.Reads items words (word :: rest)) (word' : String) :
    d.Reads items (words.set (items.flatMap Item.words).length word') (word' :: rest) := by
  rw [← h.words, List.set_append_right _ _ le_rfl, Nat.sub_self, List.set_cons_zero]
  exact h.replace _

end Reads

theorem reads_nil_iff : d.Reads items words [] ↔ d.readItems [] words = .ok items := by
  rw [readItems_nil_eq_ok_iff, ← List.append_nil (items.flatMap Item.words)]
  constructor
  case mp  => exact fun ⟨hw, hp, ho, hi⟩ => ⟨hw, hp, ho, hi⟩
  case mpr => exact fun ⟨hw, hp, ho, hi⟩ => ⟨hw, hp, ho, hi⟩

theorem readItems_of_readItem_eq_error (h : d.readItem given word rest = .error e) :
    d.readItems given (word :: rest) = .error e := by
  rw [readItems, h]

-- The items before the word that cannot be read are collected.
theorem exists_readItem_eq_error (h : d.readItems given words = .error e) :
    ∃ items word rest, items.flatMap Item.words ++ word :: rest = words ∧
      (∀ item ∈ items, item.Proper) ∧ FitInTurn given items ∧
      d.readItem (items.reverse ++ given) word rest = .error e := by
  fun_induction readItems d given words
  case case1 => cases h
  case case2 given word rest e' hr =>
    cases h
    exact ⟨[], word, rest, rfl, List.forall_mem_nil _, trivial, hr⟩
  case case3 given word rest item hr hi =>
    obtain ⟨hp, hf, after, hw⟩ := readItem_eq_ok_iff.mp hr
    rw [drop_words hw] at hi h
    cases hs : d.readItems (item :: given) after <;> rw [hs] at h <;> cases h
    obtain ⟨items, word', rest', ha, hps, hfs, hr'⟩ := hi hs
    refine ⟨item :: items, word', rest', ?_, List.forall_mem_cons.mpr ⟨hp, hps⟩, ⟨hf, hfs⟩, ?_⟩
    · rw [List.flatMap_cons, List.append_assoc, ha, hw]
    · rwa [List.reverse_cons, List.append_assoc]

-- A parse comes to one word only that cannot be read.
theorem eq_of_readItem_eq_error (hp : ∀ item ∈ items, item.Proper) (hf : FitInTurn given items)
    (hr : d.readItem (items.reverse ++ given) word rest = .error e)
    (hp' : ∀ item ∈ items', item.Proper) (hf' : FitInTurn given items')
    (hr' : d.readItem (items'.reverse ++ given) word' rest' = .error e')
    (h : items.flatMap Item.words ++ word :: rest = items'.flatMap Item.words ++ word' :: rest') :
    items = items' := by
  induction items generalizing given items' <;> cases items'
  case nil.nil => rfl
  case nil.cons item' items' =>
    rw [List.flatMap_cons, List.append_assoc] at h
    have := readItem_eq_ok (hp' item' List.mem_cons_self) hf'.left h.symm
    rw [List.reverse_nil, List.nil_append, this] at hr
    cases hr
  case cons.nil item items _ =>
    rw [List.flatMap_cons, List.append_assoc] at h
    have := readItem_eq_ok (hp item List.mem_cons_self) hf.left h
    rw [List.reverse_nil, List.nil_append, this] at hr'
    cases hr'
  case cons.cons item items hi item' items' =>
    have ⟨hp, hps⟩ := List.forall_mem_cons.mp hp
    have ⟨hp', hps'⟩ := List.forall_mem_cons.mp hp'
    have ⟨hf, hfs⟩ := hf
    have ⟨hf', hfs'⟩ := hf'
    rw [List.reverse_cons, List.append_assoc, List.singleton_append] at hr hr'
    rw [List.flatMap_cons, List.append_assoc, List.flatMap_cons, List.append_assoc] at h
    have ⟨first, after, hw⟩ := item.exists_words_append (items.flatMap Item.words ++ word :: rest)
    have he := readItem_eq_ok hp hf hw
    rw [readItem_eq_ok hp' hf' (h ▸ hw)] at he
    cases he
    rw [hi hps hfs hr hps' hfs' hr' <| List.append_cancel_left h]

theorem readItems_nil_eq_error_iff :
    d.readItems [] words = .error e ↔
      ∃ items word rest, d.Reads items words (word :: rest) ∧
        d.readItem items.reverse word rest = .error e := by
  constructor
  case mp =>
    intro h
    obtain ⟨items, word, rest, hw, hp, hf, hr⟩ := exists_readItem_eq_error h
    have ⟨ho, hi⟩ := @fitInTurn_iff d [] items nofun hp .nil d.positionals.nil_prefix |>.mp hf
    rw [List.append_nil] at hr
    exact ⟨items, word, rest, ⟨hw, hp, ho, hi⟩, hr⟩
  case mpr =>
    intro ⟨items, word, rest, h, hr⟩
    rw [h.readItems_eq, readItems_of_readItem_eq_error hr]
    rfl

end LoxTokens.Args.Definition
