import SchemaMigration.Text.Percent

/-!
# Encoding of URL components

Which characters each component of a URL holds in percent form.  Percent signs are never encoded, so
that what is encoded already stays as it is.
-/

namespace SchemaMigration.Url

/-- Control characters and everything outside ASCII. -/
def isControl (c : Char) : Bool := c.toNat < 0x20 || 0x7F ≤ c.toNat

/-- The characters encoded in a path. -/
def isPathSpecial (c : Char) : Bool :=
  isControl c || [' ', '\x22', '<', '>', '\x60', '#', '?', '\x7B', '\x7D'].contains c

/-- The characters encoded in a user name or a password. -/
def isUserSpecial (c : Char) : Bool :=
  isPathSpecial c || ['/', ':', ';', '=', '@', '[', '\x5C', ']', '^', '|'].contains c

end SchemaMigration.Url
