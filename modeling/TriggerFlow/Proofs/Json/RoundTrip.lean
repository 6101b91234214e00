import TriggerFlow.Json.Reading
import TriggerFlow.Json.Writing
import TriggerFlow.Proofs.Json.Text
import TriggerFlow.Proofs.Json.Token
import TriggerFlow.Proofs.Value.Reread

/-! # JSON text read back

The text of a value is scanned as the tokens of the value (`scan_chars`), and from the tokens of a
value the value is built on any stack (`steps_tokens`).  So a well-keyed value is read back from its
text (`read_write`), numbers, texts and keys alike; of an object that repeats keys, their last values
are (`read_write_object`).  Only the not-a-numbers are other objects then: all of them are that of the
reader (`Value.reread`). -/

namespace TriggerFlow

namespace Json

open Value (rereadItems rereadEntries keys_rereadEntries)

mutual

/-- The tokens of a value. -/
def tokens : Value → List Token
  | .null => [.scalar .null]
  | .bool b => [.scalar (.bool b)]
  | .int n => [.scalar (.int n)]
  | .float x => [.scalar (.float (numberRead x))]
  | .str s => [.text s]
  | .list [] => [.beginList, .endList]
  | .list (v :: items) => .beginList :: (tokens v ++ itemTokens items)
  | .object [] => [.beginObject, .endObject]
  | .object ((k, v) :: entries) =>
    .beginObject :: .text k :: .colon :: (tokens v ++ entryTokens entries)

/-- The items after the first, and the end of the list. -/
def itemTokens : List Value → List Token
  | [] => [.endList]
  | v :: items => .comma :: (tokens v ++ itemTokens items)

/-- The entries after the first, and the end of the object. -/
def entryTokens : List (String × Value) → List Token
  | [] => [.endObject]
  | (k, v) :: entries => .comma :: .text k :: .colon :: (tokens v ++ entryTokens entries)

end

/-! ### Scanning -/

theorem delimited_cons {c : Char} (hc : isWordChar c = false) (rest : List Char) :
    Delimited (c :: rest) := by
  intro d tail h
  cases h
  exact hc

theorem delimited_itemChars (rest : List Char) (items : List Value) :
    Delimited (itemChars rest items) := by
  cases items with
  | nil => exact delimited_cons rfl rest
  | cons v items => exact delimited_cons rfl _

theorem delimited_entryChars (rest : List Char) (entries : List (String × Value)) :
    Delimited (entryChars rest entries) := by
  cases entries with
  | nil => exact delimited_cons rfl rest
  | cons e entries => exact delimited_cons rfl _

/-- A key with its colon. -/
theorem scan_key (k : String) (done : List Token) (rest : List Char) :
    scan done .between (textChars k (':' :: ' ' :: rest)) =
      scan (.colon :: .text k :: done) .between rest :=
  scan_textChars k done (':' :: ' ' :: rest)

mutual

theorem scan_chars (v : Value) (done : List Token) {rest : List Char} (hr : Delimited rest) :
    scan done .between (chars rest v) = scan ((tokens v).reverse ++ done) .between rest := by
  match v with
  | .null => exact scan_scalar ['n', 'u', 'l', 'l'] (List.all_eq_true.mp rfl) rfl done hr
  | .bool true => exact scan_scalar ['t', 'r', 'u', 'e'] (List.all_eq_true.mp rfl) rfl done hr
  | .bool false => exact scan_scalar ['f', 'a', 'l', 's', 'e'] (List.all_eq_true.mp rfl) rfl done hr
  | .int n => exact scan_scalar _ (wordChars_int n) (word?_int n) done hr
  | .float x => exact scan_scalar _ (wordChars_float x) (word?_float x) done hr
  | .str s => exact scan_textChars s done rest
  | .list [] => rfl
  | .list (v :: items) =>
      have hv := scan_chars v (.beginList :: done) (delimited_itemChars rest items)
      rw [chars, tokens, List.reverse_cons, List.reverse_append, List.append_assoc,
        List.append_assoc]
      exact hv.trans (scan_itemChars items _ hr)
  | .object [] => rfl
  | .object ((k, v) :: entries) =>
      have hk := scan_key k (.beginObject :: done) (chars (entryChars rest entries) v)
      have hv := scan_chars v (.colon :: .text k :: .beginObject :: done)
        (delimited_entryChars rest entries)
      rw [chars, tokens]
      simp only [List.reverse_cons, List.reverse_append, List.append_assoc]
      exact hk.trans (hv.trans (scan_entryChars entries _ hr))

theorem scan_itemChars (items : List Value) (done : List Token) {rest : List Char}
    (hr : Delimited rest) : scan done .between (itemChars rest items) =
      scan ((itemTokens items).reverse ++ done) .between rest := by
  match items with
  | [] => rfl
  | v :: items =>
      have hv := scan_chars v (.comma :: done) (delimited_itemChars rest items)
      rw [itemChars, itemTokens, List.reverse_cons, List.reverse_append, List.append_assoc,
        List.append_assoc]
      exact hv.trans (scan_itemChars items _ hr)

theorem scan_entryChars (entries : List (String × Value)) (done : List Token) {rest : List Char}
    (hr : Delimited rest) : scan done .between (entryChars rest entries) =
      scan ((entryTokens entries).reverse ++ done) .between rest := by
  match entries with
  | [] => rfl
  | (k, v) :: entries =>
      have hk := scan_key k (.comma :: done) (chars (entryChars rest entries) v)
      have hv := scan_chars v (.colon :: .text k :: .comma :: done)
        (delimited_entryChars rest entries)
      rw [entryChars, entryTokens]
      simp only [List.reverse_cons, List.reverse_append, List.append_assoc]
      exact hk.trans (hv.trans (scan_entryChars entries _ hr))

end

theorem scan_write (v : Value) : scan [] .between (write v).toList = some (tokens v) := by
  have hend : Delimited [] := by
    intro c rest h
    cases h
  rw [write, String.toList_ofList, scan_chars v [] hend, List.append_nil, scan, List.reverse_reverse]

/-! ### Building -/

/-- The progress after some tokens. -/
def steps (p : Progress) (ts : List Token) : Option Progress := ts.foldlM Progress.step? p

theorem steps_cons {p q : Progress} {t : Token} (h : p.step? t = some q) (ts : List Token) :
    steps p (t :: ts) = steps q ts := by
  rw [steps, List.foldlM_cons, h]
  rfl

/-- The first item of a list begins as any value does. -/
theorem steps_itemOrEnd (v : Value) (stack : List Frame) (ts : List Token) :
    steps (.itemOrEnd stack) (tokens v ++ ts) = steps (.value (.items [] :: stack)) (tokens v ++ ts) := by
  match v with
  | .null | .bool _ | .int _ | .float _ | .str _ => rfl
  | .list [] | .list (_ :: _) | .object [] | .object ((_, _) :: _) => rfl

mutual

theorem steps_tokens (v : Value) (hv : v.WellKeyed) (stack : List Frame) (ts : List Token) :
    steps (.value stack) (tokens v ++ ts) = steps (.after v.reread stack) ts := by
  match v with
  | .null | .bool _ | .int _ | .float _ | .str _ => rfl
  | .list [] => rfl
  | .list (v :: items) =>
      have hfirst := steps_tokens v (hv.item List.mem_cons_self) (.items [] :: stack)
        (itemTokens items ++ ts)
      have hrest := steps_itemTokens items (fun w hw => hv.item (List.mem_cons_of_mem _ hw))
        v.reread [] stack ts
      rw [tokens, List.cons_append, List.append_assoc]
      exact (steps_itemOrEnd v stack _).trans (hfirst.trans hrest)
  | .object entries =>
      have hobject := steps_objectTokens entries (fun e he => hv.entry he) stack ts
      rw [Entries.ofList_of_nodup (keys_rereadEntries entries ▸ hv.keys)] at hobject
      exact hobject

theorem steps_itemTokens (items : List Value) (hi : ∀ v ∈ items, v.WellKeyed) (v : Value)
    (done : List Value) (stack : List Frame) (ts : List Token) :
    steps (.after v (.items done :: stack)) (itemTokens items ++ ts) =
      steps (.after (.list ((v :: done).reverse ++ rereadItems items)) stack) ts := by
  match items with
  | [] =>
      rw [rereadItems, List.append_nil]
      rfl
  | w :: items =>
      have hfirst := steps_tokens w (hi w List.mem_cons_self) (.items (v :: done) :: stack)
        (itemTokens items ++ ts)
      have hrest := steps_itemTokens items (fun x hx => hi x (List.mem_cons_of_mem _ hx)) w.reread
        (v :: done) stack ts
      rw [List.reverse_cons, List.append_assoc] at hrest
      rw [itemTokens, List.cons_append, List.append_assoc]
      exact hfirst.trans hrest

/-- Keys may be repeated in the object itself: their last values are read. -/
theorem steps_objectTokens (entries : List (String × Value)) (he : ∀ e ∈ entries, e.2.WellKeyed)
    (stack : List Frame) (ts : List Token) :
    steps (.value stack) (tokens (.object entries) ++ ts) =
      steps (.after (.object (Entries.ofList (rereadEntries entries))) stack) ts := by
  match entries with
  | [] => rfl
  | (k, v) :: entries =>
      have hfirst := steps_tokens v (he _ List.mem_cons_self) (.entries [] k :: stack)
        (entryTokens entries ++ ts)
      have hrest := steps_entryTokens entries
        (fun e h => he e (List.mem_cons_of_mem _ h)) k v.reread [] stack ts
      simp only [tokens, List.cons_append, List.append_assoc]
      exact hfirst.trans hrest

theorem steps_entryTokens (entries : List (String × Value))
    (he : ∀ e ∈ entries, e.2.WellKeyed) (k : String) (v : Value) (done : List (String × Value))
    (stack : List Frame) (ts : List Token) :
    steps (.after v (.entries done k :: stack)) (entryTokens entries ++ ts) =
      steps (.after (.object (Entries.ofList
        (((k, v) :: done).reverse ++ rereadEntries entries))) stack) ts := by
  match entries with
  | [] =>
      rw [rereadEntries, List.append_nil]
      exact steps_cons rfl ts
  | (l, w) :: entries =>
      have hsplit : ((k, v) :: done).reverse ++ rereadEntries ((l, w) :: entries) =
          ((l, w.reread) :: (k, v) :: done).reverse ++ rereadEntries entries := by
        rw [rereadEntries, @List.reverse_cons _ (l, w.reread), List.append_assoc]
        rfl
      have hfirst := steps_tokens w (he _ List.mem_cons_self) (.entries ((k, v) :: done) l :: stack)
        (entryTokens entries ++ ts)
      have hrest := steps_entryTokens entries (fun e h => he e (List.mem_cons_of_mem _ h)) l
        w.reread ((k, v) :: done) stack ts
      rw [hsplit]
      simp only [entryTokens, List.cons_append, List.append_assoc]
      exact hfirst.trans hrest

end

theorem read_write_of_steps {v w : Value}
    (h : steps (.value []) (tokens v ++ []) = steps (.after w []) []) :
    read? (write v) = some w := by
  rw [List.append_nil] at h
  have hfold : (tokens v).foldlM Progress.step? (.value []) = some (.after w []) := h
  unfold read?
  rw [scan_write]
  simp only [Option.bind_eq_bind, Option.bind_some, hfold]

/-- **A well-keyed value is read back from its text.** -/
theorem read_write {v : Value} (h : v.WellKeyed) : read? (write v) = some v.reread :=
  read_write_of_steps (steps_tokens v h [] [])

/-- Of entries of which some have the same key, the last are read back. -/
theorem read_write_object {entries : Entries} (h : ∀ e ∈ entries, e.2.WellKeyed) :
    read? (write (.object entries)) = some (.object (Entries.ofList (rereadEntries entries))) :=
  read_write_of_steps (steps_objectTokens entries h [] [])

end Json

end TriggerFlow
