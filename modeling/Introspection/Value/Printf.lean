import Introspection.Value

/-!
# Formatting host values into templates

A template is text with verbs: `%v` writes a value's default text, `%s` a string or a value's
default text, `%d` an integer in decimal, `%x` an integer or byte string in lowercase
hexadecimal, `%q` a quoted string, and `%%` a percent sign. A verb that does not fit its value
writes `%!verb(type=value)`, a verb without a value writes `%!verb(MISSING)`, and values left
over are listed at the end as `%!(EXTRA type=value, …)`.
-/

namespace Introspection.Value

def verbText (verb : Char) (v : Value) : String :=
  let bad := "%!" ++ String.singleton verb ++ "(" ++ v.typeName ++ "=" ++ v.defaultText ++ ")"
  match verb, v with
  | 'v', _ => v.defaultText
  | 's', .str s => Text.Utf8.lossy s
  | 's', .bytes b => Text.Utf8.lossy b
  | 's', .int .. | 's', .bool _ | 's', .float32 _ | 's', .float64 _ => bad
  | 's', _ => v.defaultText
  | 'd', .int _ i => toString i
  | 'd', _ => bad
  | 'x', .int _ i =>
    if i < 0 then "-" ++ Text.Hex.ofNat i.natAbs else Text.Hex.ofNat i.toNat
  | 'x', .str s => Text.Hex.ofBytes s
  | 'x', .bytes b => Text.Hex.ofBytes b
  | 'x', _ => bad
  | 'q', .str s => Text.Quote.quoteBytes s
  | 'q', .bytes b => Text.Quote.quoteBytes b
  | 'q', _ => bad
  | _, _ => bad

def printf (template : String) (args : List Value) : String :=
  let rec go : List Char → List Value → List Char → String
    | [], rest, acc =>
      let extra := if rest.isEmpty then ""
        else "%!(EXTRA " ++ ", ".intercalate (rest.map fun v => v.typeName ++ "=" ++ v.defaultText)
          ++ ")"
      String.ofList acc.reverse ++ extra
    | '%' :: '%' :: cs, rest, acc => go cs rest ('%' :: acc)
    | '%' :: c :: cs, rest, acc =>
      match rest with
      | v :: more => go cs more ((verbText c v).toList.reverse ++ acc)
      | [] => go cs [] (("%!" ++ String.singleton c ++ "(MISSING)").toList.reverse ++ acc)
    | c :: cs, rest, acc => go cs rest (c :: acc)
  go template.toList args []

end Introspection.Value
