import GetOffline.Settlement

set_option autoImplicit true

namespace GetOffline
open Python Execution

-- workers/runner.py

namespace ConsumerLoop

end ConsumerLoop

namespace ConsumerLoop

end ConsumerLoop

end GetOffline
