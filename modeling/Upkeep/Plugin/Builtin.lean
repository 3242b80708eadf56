import Upkeep.Plugin.Activation
import Upkeep.Plugin.ConfigBackup
import Upkeep.Plugin.NodeStatus

/-!
# Built-in plugins
-/

namespace Upkeep

/-- The registry of the plugins that are always there. -/
def Registry.builtin {σ : Type} [Session σ] : Registry σ := [
  ⟨"devpipe.builtin.node_status", NodeStatus.plugin⟩,
  ⟨"devpipe.builtin.config_backup", ConfigBackup.plugin⟩,
  ⟨"devpipe.builtin.install_activate", Activation.plugin⟩]

end Upkeep
