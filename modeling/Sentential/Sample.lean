import Sentential.Grammar.Derivation
import Sentential.Random

namespace Sentential

inductive SampleError where
  | undefinedNonterminal (c : Char)
  | tooDeep (maxDepth : Nat)
  deriving Repr, DecidableEq

def SampleError.message : SampleError → String
  | undefinedNonterminal c => s!"No definition for nonterminal `{c}`"
  | tooDeep n => s!"Gave up after nesting {n} expansions deep"

/-- Something that takes words from a source and may fail; the words stay taken if it does. -/
abbrev Sampler := ExceptT SampleError (StateM RandomSource)

namespace Sampler

def choose {α : Type} (options : List α) : Sampler (Option α) := fun src =>
  let (choice, src) := src.choose options
  (.ok choice, src)

def form (expand : Char → Sampler Forest) : Form → Sampler Forest
  | [] => pure .nil
  | c :: rest => do
    if isNonterminal c then
      let children ← expand c
      let others ← form expand rest
      pure (.node c children others)
    else
      let others ← form expand rest
      pure (.terminal c others)

/-- The forest below a symbol, in which at most `room` expansions nest, that of the symbol
included. `limit` is the number reported when that is too few. -/
def symbol (g : Grammar) (limit : Nat) : (room : Nat) → Char → Sampler Forest
  | 0, _ => throw (.tooDeep limit)
  | room + 1, x => do
    match ← choose (g.alternatives x) with
    | none => throw (.undefinedNonterminal x)
    | some alternative => form (symbol g limit room) alternative

end Sampler

namespace Grammar

def sampleForest (g : Grammar) (maxDepth : Nat) : Sampler Forest :=
  Sampler.symbol g maxDepth maxDepth g.start

def sample (g : Grammar) (maxDepth : Nat) (src : RandomSource) :
    Except SampleError Form × RandomSource :=
  let (forest, src) := g.sampleForest maxDepth src
  (forest.map Forest.yield, src)

def sampleMany (g : Grammar) (maxDepth : Nat) :
    Nat → RandomSource → List (Except SampleError Form × Nat) × RandomSource
  | 0, src => ([], src)
  | count + 1, src =>
    let (result, src) := g.sample maxDepth src
    let (results, last) := sampleMany g maxDepth count src
    ((result, src.taken) :: results, last)

/-- Replaces the first nonterminal by an alternative drawn from the source, `count` times, and lists
what was chosen for which symbol. There is no result if nothing is left to replace or to choose. -/
def rewrite (g : Grammar) :
    (count : Nat) → Form → RandomSource → Option (List (Char × Form) × Form × RandomSource)
  | 0, f, src => some ([], f, src)
  | count + 1, f, src =>
    match f.leftmost? with
    | none => none
    | some focus =>
      match src.choose (g.alternatives focus.symbol) with
      | (none, _) => none
      | (some a, src) =>
        (rewrite g count (focus.fill a) src).map fun (choices, last) =>
          ((focus.symbol, a) :: choices, last)

end Grammar

namespace Sampler

/-- The choices that `form` makes, in their order and as far as it gets. `choices` has those that are
made while `expand` finds the children of a nonterminal. -/
def formChoices (expand : Char → Sampler Forest)
    (choices : Char → RandomSource → List (Char × Form)) :
    Form → RandomSource → List (Char × Form)
  | [], _ => []
  | c :: rest, src =>
    if isNonterminal c then
      match expand c src with
      | (.ok _, src') => choices c src ++ formChoices expand choices rest src'
      | (.error _, _) => choices c src
    else formChoices expand choices rest src

def symbolChoices (g : Grammar) (limit : Nat) :
    (room : Nat) → Char → RandomSource → List (Char × Form)
  | 0, _, _ => []
  | room + 1, x, src =>
    match src.choose (g.alternatives x) with
    | (none, _) => []
    | (some a, src) =>
      (x, a) :: formChoices (symbol g limit room) (symbolChoices g limit room) a src

end Sampler

namespace Grammar

def sampleChoices (g : Grammar) (maxDepth : Nat) (src : RandomSource) : List (Char × Form) :=
  Sampler.symbolChoices g maxDepth maxDepth g.start src

end Grammar

end Sentential
