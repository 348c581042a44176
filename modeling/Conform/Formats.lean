import Conform.Keyword

set_option autoImplicit false

namespace Conform

-- A name without a check is a format that counts as unsupported.
abbrev Formats := List (String × Option Check)

namespace Formats

def standard : Formats :=
  [("ipv4", some (Check.ofFindings Keyword.ipv4)), ("ipv6", some (Check.ofFindings Keyword.ipv6))]

def extend (extras : Formats) : Formats :=
  extras.foldl (fun registry entry => setMember entry.1 entry.2 registry) standard

def names (registry : Formats) : List String :=
  (Json.sortByKey registry).map (·.1)

def find? (registry : Formats) (name : String) : Option Check :=
  (member? name registry).join

end Formats

end Conform
