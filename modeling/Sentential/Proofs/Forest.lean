import Sentential.Proofs.Leftmost

namespace Sentential

namespace Forest

def append : Forest → Forest → Forest
  | nil, G => G
  | terminal c rest, G => terminal c (rest.append G)
  | node x children rest, G => node x children (rest.append G)

def ofForm : Form → Forest
  | [] => nil
  | c :: rest => terminal c (ofForm rest)

@[simp] theorem roots_append (F G : Forest) : (F.append G).roots = F.roots ++ G.roots := by
  induction F with
  | nil => rfl
  | terminal c rest ih => simp [append, roots, ih]
  | node x children rest _ ih => simp [append, roots, ih]

@[simp] theorem yield_append (F G : Forest) : (F.append G).yield = F.yield ++ G.yield := by
  induction F with
  | nil => rfl
  | terminal c rest ih => simp [append, yield, ih]
  | node x children rest _ ih => simp [append, yield, ih]

@[simp] theorem conforms_append_iff {g : Grammar} {F G : Forest} :
    (F.append G).Conforms g ↔ F.Conforms g ∧ G.Conforms g := by
  induction F with
  | nil => simp [append, Conforms]
  | terminal c rest ih => simp [append, Conforms, ih, and_assoc]
  | node x children rest _ ih => simp [append, Conforms, ih, and_assoc]

@[simp] theorem roots_ofForm (f : Form) : (ofForm f).roots = f := by
  induction f with
  | nil => rfl
  | cons c rest ih => rw [ofForm, roots, ih]

@[simp] theorem yield_ofForm (f : Form) : (ofForm f).yield = f := by
  induction f with
  | nil => rfl
  | cons c rest ih => rw [ofForm, yield, ih]

theorem conforms_ofForm (g : Grammar) {f : Form} (hf : f.Finished) : (ofForm f).Conforms g := by
  induction f with
  | nil => trivial
  | cons c rest ih =>
    obtain ⟨hc, hrest⟩ := Form.finished_cons_iff.mp hf
    exact ⟨hc, ih hrest⟩

theorem finished_yield {g : Grammar} {F : Forest} (hF : F.Conforms g) : F.yield.Finished := by
  induction F with
  | nil => exact Form.finished_nil
  | terminal c rest ih => exact Form.finished_cons_iff.mpr ⟨hF.1, ih hF.2⟩
  | node x children rest ihc ih =>
    obtain ⟨-, -, hchildren, hrest⟩ := hF
    exact Form.finished_append_iff.mpr ⟨ihc hchildren, ih hrest⟩

theorem exists_append_of_roots {F : Forest} {f f' : Form} (h : F.roots = f ++ f') :
    ∃ G H : Forest, F = G.append H ∧ G.roots = f ∧ H.roots = f' := by
  induction F generalizing f with
  | nil =>
    obtain ⟨rfl, rfl⟩ := List.append_eq_nil_iff.mp h.symm
    exact ⟨nil, nil, rfl, rfl, rfl⟩
  | terminal c rest ih =>
    cases f with
    | nil => exact ⟨nil, terminal c rest, rfl, rfl, h⟩
    | cons b f =>
      obtain ⟨rfl, hr⟩ := List.cons_eq_cons.mp h
      obtain ⟨G, H, rfl, rfl, hH⟩ := ih hr
      exact ⟨terminal c G, H, rfl, rfl, hH⟩
  | node x children rest _ ih =>
    cases f with
    | nil => exact ⟨nil, node x children rest, rfl, rfl, h⟩
    | cons b f =>
      obtain ⟨rfl, hr⟩ := List.cons_eq_cons.mp h
      obtain ⟨G, H, rfl, rfl, hH⟩ := ih hr
      exact ⟨node x children G, H, rfl, rfl, hH⟩

/-- Undoing a substitution joins the trees of the alternative under one node. -/
theorem exists_of_step {g : Grammar} {f f' : Form} (hs : g.Step f f') {F : Forest}
    (hF : F.Conforms g) (hr : F.roots = f') :
    ∃ G : Forest, G.Conforms g ∧ G.roots = f ∧ G.yield = F.yield := by
  obtain ⟨focus, a, hx, ha⟩ := hs
  -- the trees are divided as the form: after the alternative, and then before it
  obtain ⟨F, after, rfl, hr, hafter⟩ := exists_append_of_roots hr
  obtain ⟨before, children, rfl, hbefore, rfl⟩ := exists_append_of_roots hr
  simp only [conforms_append_iff] at hF
  obtain ⟨⟨hb, hc⟩, haf⟩ := hF
  refine ⟨before.append (node focus.symbol children after), ?_, ?_, ?_⟩
  · exact conforms_append_iff.mpr ⟨hb, hx, ha, hc, haf⟩
  · simp [roots, Form.Focus.fill, hbefore, hafter]
  · simp [yield]

theorem exists_of_derives {g : Grammar} {f t : Form} (h : g.Derives f t) (ht : t.Finished) :
    ∃ F : Forest, F.Conforms g ∧ F.roots = f ∧ F.yield = t := by
  induction h with
  | refl t => exact ⟨ofForm t, conforms_ofForm g ht, roots_ofForm t, yield_ofForm t⟩
  | step hs _ ih =>
    obtain ⟨F, hF, hr, hy⟩ := ih ht
    obtain ⟨G, hG, hr', hy'⟩ := exists_of_step hs hF hr
    exact ⟨G, hG, hr', hy'.trans hy⟩

end Forest

namespace Grammar

def Move.choice (m : Move) : Char × Form := (m.focus.symbol, m.alternative)

/-- A derivation that starts at the bottom of a forest can be put off until the forest has been
expanded, parents before children and from left to right. -/
theorem Leftmost.expand {g : Grammar} {F : Forest} (hF : F.Conforms g) {before : Form}
    (hb : before.Finished) (after : Form) {t : Form} {moves : List Move}
    (h : g.Leftmost moves (before ++ F.yield ++ after) t) :
    ∃ first, g.Leftmost (first ++ moves) (before ++ F.roots ++ after) t ∧
      first.map Move.choice = F.choices := by
  induction F generalizing before after moves with
  | nil => exact ⟨[], h, rfl⟩
  | terminal c rest ih =>
    have hb' : (before ++ [c]).Finished := by simp [hb, hF.1]
    obtain ⟨first, hfirst, hc⟩ := ih hF.2 hb' after (by simpa [Forest.yield] using h)
    exact ⟨first, by simpa [Forest.roots] using hfirst, hc⟩
  | node x children rest ihc ih =>
    obtain ⟨hx, ha, hchildren, hrest⟩ := hF
    have hb' : (before ++ children.yield).Finished :=
      Form.finished_append_iff.mpr ⟨hb, Forest.finished_yield hchildren⟩
    -- the rest comes last, so its moves are found first
    obtain ⟨last, hlast, hlc⟩ := ih hrest hb' after (by simpa [Forest.yield] using h)
    obtain ⟨first, hfirst, hfc⟩ := ihc hchildren hb (rest.roots ++ after) (by simpa using hlast)
    obtain ⟨i, hi⟩ := List.mem_iff_getElem?.mp ha
    let m : Move := ⟨⟨before, x, rest.roots ++ after⟩, i, children.roots⟩
    refine ⟨m :: (first ++ last), .move (m := m) ?_ hi ?_, ?_⟩
    · apply Form.leftmost?_eq_some_iff.mpr
      simp [m, Form.Focus.fill, Forest.roots, hx, hb]
    · simpa [m, Move.result, Form.Focus.fill] using hfirst
    · simp [m, Move.choice, Forest.choices, hfc, hlc]

theorem Leftmost.of_forest {g : Grammar} {F : Forest} (hF : F.Conforms g) :
    ∃ moves, g.Leftmost moves F.roots F.yield ∧ moves.map Move.choice = F.choices := by
  obtain ⟨first, h, hc⟩ := Leftmost.expand hF Form.finished_nil []
    (.done ([] ++ F.yield ++ []))
  exact ⟨first, by simpa using h, hc⟩

/-- For finished forms the order of the substitutions does not matter. -/
theorem exists_leftmost_iff_derives {g : Grammar} {f t : Form} (ht : t.Finished) :
    (∃ moves, g.Leftmost moves f t) ↔ g.Derives f t := by
  constructor
  · intro h
    obtain ⟨moves, hm⟩ := h
    exact hm.derives
  · intro h
    obtain ⟨F, hF, rfl, rfl⟩ := Forest.exists_of_derives h ht
    obtain ⟨moves, hm, -⟩ := Leftmost.of_forest hF
    exact ⟨moves, hm⟩

end Grammar

end Sentential
