import MailRound.Fetcher.Query
import MailRound.Proofs.Calendar.Hyphenated

namespace MailRound

namespace Calendar

variable {text other : String} {ys ms ds ys' ms' ds' : List Char}

end Calendar

end MailRound
