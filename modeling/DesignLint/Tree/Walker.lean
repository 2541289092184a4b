import DesignLint.Tree.Basic

namespace DesignLint

structure Walker (α κ σ : Type) where
  handlers : List (Option κ × (α → σ → σ)) := []
  hooks : List (σ → σ) := []

namespace Walker

variable {α κ σ : Type}

def on (w : Walker α κ σ) (kind : Option κ) (handler : α → σ → σ) : Walker α κ σ :=
  { w with handlers := w.handlers ++ [(kind, handler)] }

def onEnd (w : Walker α κ σ) (hook : σ → σ) : Walker α κ σ :=
  { w with hooks := w.hooks ++ [hook] }

def registered [DecidableEq κ] (w : Walker α κ σ) (kind : Option κ) : List (α → σ → σ) :=
  (w.handlers.filter fun h => h.1 = kind).map Prod.snd

def dispatch [DecidableEq κ] (w : Walker α κ σ) (kindOf : α → κ) (state : σ) (a : α) : σ :=
  (w.registered none ++ w.registered (some (kindOf a))).foldl (fun s f => f a s) state

def run [DecidableEq κ] (w : Walker α κ σ) (kindOf : α → κ) (limit : Int) (t : Tree α)
    (state : σ) : σ × Nat :=
  let visited := (t.walk limit true).map Tree.label
  (w.hooks.foldl (fun s f => f s) (visited.foldl (w.dispatch kindOf) state), visited.length)

end Walker

end DesignLint
