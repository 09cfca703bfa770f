import MailRelay.Address.List

set_option autoImplicit false

namespace MailRelay.Mailbox

def split? (address : List Char) : Option (List Char × List Char) :=
  let user := address.takeWhile (· != '@')
  match address.dropWhile (· != '@') with
  | _ :: domain =>
    if user.isEmpty || domain.isEmpty || domain.contains '@' then none else some (user, domain)
  | [] => none

def parseChars? (input : List Char) : Option (List Char) :=
  let input := Text.trim input
  if input.isEmpty then none
  else
    match AddressList.ofText? input with
    | some [.mailbox address] =>
      let address := Text.trim address
      (split? address).map fun _ => address
    | _ => none

def parse? (input : String) : Option String :=
  (parseChars? input.toList).map String.ofList

def withoutBrackets (address : List Char) : List Char :=
  match address with
  | '<' :: rest => if rest.getLast? == some '>' then rest.dropLast else address
  | _ => address

def domain? (address : String) : Option String :=
  (split? (withoutBrackets (Text.trim address.toList))).map fun (_, domain) => String.ofList domain

end MailRelay.Mailbox
