import KubeDataGuard.Digest

/-!
# Generated names

The DNS labels under which the operator creates Jobs and looks up the
ConfigMaps of their workers.
-/

namespace KubeDataGuard

/-- `unicode.ToLower`, as far as it reaches the characters a label keeps. -/
def lowerRune (c : Char) : Char :=
  if 'A' ≤ c ∧ c ≤ 'Z' then Char.ofNat (c.toNat + 32)
  else if c = Char.ofNat 0x212A then 'k'
  else if c = Char.ofNat 0x130 then 'i'
  else c

def labelRune (c : Char) : Char :=
  if ('a' ≤ c ∧ c ≤ 'z') ∨ ('0' ≤ c ∧ c ≤ '9') ∨ c = '-' then c else '-'

/-- `strings.Trim(text, "-")` -/
def trimDashes (text : List Char) : List Char :=
  ((text.dropWhile (· = '-')).reverse.dropWhile (· = '-')).reverse

def dnsLabel (start value : String) : String :=
  let raw := (start ++ "-" ++ value).toList.map lowerRune
  let trimmed := trimDashes (raw.map labelRune)
  let clean := if trimmed = [] then "dataguard".toList else trimmed
  if clean.length ≤ 63 then String.ofList clean
  else
    let suffix := (Digest.hex (Digest.sha1 (Digest.utf8 (String.ofList clean)))).take 8
    let keep := 63 - suffix.length - 1
    String.ofList (trimDashes (clean.take keep) ++ '-' :: suffix)

-- Proofs never look into a label; without this they would compute its digest.
attribute [irreducible] dnsLabel

def checkerJobName (name checkId : String) : String :=
  dnsLabel "dataguard-check" (name ++ "-" ++ checkId)

def reportConfigMapName (name checkId : String) : String :=
  dnsLabel "dataguard-report" (name ++ "-" ++ checkId)

def repairJobName (name checkId : String) : String :=
  dnsLabel "dataguard-repair" (name ++ "-" ++ checkId)

def repairConfigMapName (name checkId : String) : String :=
  dnsLabel "dataguard-repair-report" (name ++ "-" ++ checkId)

example : reportConfigMapName "orders" "g1" = "dataguard-report-orders-g1" := by decide +kernel

end KubeDataGuard
