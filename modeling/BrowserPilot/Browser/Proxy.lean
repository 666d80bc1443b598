import BrowserPilot.Random.Draw
import BrowserPilot.Text.Blank

/-!
# Proxies

The proxies a browser may go through, and which of them comes next.
-/

namespace BrowserPilot

structure ProxyPool where
  proxies : List String
  atRandom : Bool
  taken : Nat := 0
  deriving DecidableEq, Repr

namespace ProxyPool

/-- The proxies that are not blank, without the blanks around them. Every way
of taking turns but `random` is a cycle. -/
def ofList (proxies : List String) (rotation : String) : ProxyPool where
  proxies := (proxies.map fun p => String.ofList (Text.trim p.toList)).filter fun p => !p.isEmpty
  atRandom := rotation == "random"

def size (p : ProxyPool) : Nat := p.proxies.length

def isAvailable (p : ProxyPool) : Bool := !p.proxies.isEmpty

def next (p : ProxyPool) : Draw (Option String × ProxyPool) :=
  if h : p.proxies = [] then pure (none, p)
  else if p.atRandom then do
    let proxy ← Draw.member p.proxies h
    pure (some proxy, p)
  else pure (p.proxies[p.taken % p.size]?, { p with taken := p.taken + 1 })

end ProxyPool

end BrowserPilot
